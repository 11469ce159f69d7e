import BusPool.Attempt

/-!
# Pool parameters

A pool hands out blocks of one size. Every block starts at a multiple of the alignment, and
where a boundary is set no block crosses a multiple of it. **`Config.validate`** says which
parameters can be met at all, and **`Config.growthRequest`** how much memory to ask for so that
one block fits, given that the store grants memory at multiples of its granularity.
-/

namespace BusPool

/-- The parameters of a pool. -/
structure Config where
  /-- The size of every block. -/
  blockSize : Word
  /-- What every block's address is a multiple of. -/
  align : Word
  /-- What no block may cross a multiple of; zero means that there is no such rule. -/
  boundary : Word
deriving DecidableEq, Inhabited, Repr

/-- Why parameters are rejected. -/
inductive ConfigError where
  /-- Blocks without bytes. -/
  | zeroBlockSize
  /-- The alignment is not a power of two. -/
  | alignNotPowerOfTwo (align : Word)
  /-- The boundary is not a power of two. -/
  | boundaryNotPowerOfTwo (boundary : Word)
  /-- No block fits between two multiples of the boundary. -/
  | boundaryTooSmall (boundary blockSize : Word)
  /-- Not every multiple of the boundary is aligned. -/
  | alignExceedsBoundary (align boundary : Word)
deriving DecidableEq, Repr

namespace ConfigError

/-- What is wrong, for a reader. -/
def message : ConfigError → String
  | zeroBlockSize => "block size must not be zero"
  | alignNotPowerOfTwo align =>
    "alignment " ++ Text.Hex.plain align.toNat ++ " is not a power of two"
  | boundaryNotPowerOfTwo boundary =>
    "boundary " ++ Text.Hex.plain boundary.toNat ++ " is not a power of two"
  | boundaryTooSmall boundary blockSize =>
    "boundary " ++ Text.Hex.plain boundary.toNat ++ " is smaller than the block size "
      ++ Text.Hex.plain blockSize.toNat
  | alignExceedsBoundary align boundary =>
    "alignment " ++ Text.Hex.plain align.toNat ++ " exceeds the boundary "
      ++ Text.Hex.plain boundary.toNat

/-- The name of the cause. -/
def name : ConfigError → String
  | zeroBlockSize => "ZeroBlockSize"
  | alignNotPowerOfTwo _ => "AlignNotPowerOfTwo"
  | boundaryNotPowerOfTwo _ => "BoundaryNotPowerOfTwo"
  | boundaryTooSmall _ _ => "BoundaryTooSmall"
  | alignExceedsBoundary _ _ => "AlignExceedsBoundary"

/-- The cause with the values it is about, in decimal. -/
def inspect (e : ConfigError) : String :=
  match e with
  | zeroBlockSize => e.name
  | alignNotPowerOfTwo value | boundaryNotPowerOfTwo value =>
    e.name ++ "(" ++ toString value.toNat ++ ")"
  | boundaryTooSmall boundary blockSize =>
    e.name ++ " \x7b boundary: " ++ toString boundary.toNat ++ ", block_size: "
      ++ toString blockSize.toNat ++ " \x7d"
  | alignExceedsBoundary align boundary =>
    e.name ++ " \x7b align: " ++ toString align.toNat ++ ", boundary: "
      ++ toString boundary.toNat ++ " \x7d"

end ConfigError

namespace Config

/-! ## Which parameters are accepted -/

/-- Accept the parameters, or name the first rule they break. -/
def validate (c : Config) : Except ConfigError Unit :=
  if c.blockSize = 0 then .error .zeroBlockSize
  else if !Word.isPowerOfTwo c.align then .error (.alignNotPowerOfTwo c.align)
  else if c.boundary = 0 then .ok ()
  else if !Word.isPowerOfTwo c.boundary then .error (.boundaryNotPowerOfTwo c.boundary)
  else if c.boundary < c.blockSize then .error (.boundaryTooSmall c.boundary c.blockSize)
  else if c.boundary < c.align then .error (.alignExceedsBoundary c.align c.boundary)
  else .ok ()

/-- Parameters that can be met: blocks are not empty, and where there is a boundary a block fits
between two multiples of it, the lower of which is aligned. -/
structure Valid (c : Config) : Prop where
  /-- Blocks have bytes. -/
  blockSize_pos : 0 < c.blockSize.toNat
  /-- The alignment is a power of two. -/
  align_pow : Word.isPowerOfTwo c.align = true
  /-- A boundary is a power of two. -/
  boundary_pow : c.boundary ≠ 0 → Word.isPowerOfTwo c.boundary = true
  /-- A block is no larger than the boundary. -/
  blockSize_le : c.boundary ≠ 0 → c.blockSize.toNat ≤ c.boundary.toNat
  /-- The alignment is no larger than the boundary. -/
  align_le : c.boundary ≠ 0 → c.align.toNat ≤ c.boundary.toNat

/-- The parameters that are accepted are the ones that can be met. -/
theorem validate_eq_ok_iff {c : Config} : c.validate = .ok () ↔ c.Valid := by
  have hpos : c.blockSize = 0 ↔ c.blockSize.toNat = 0 := by
    rw [← UInt64.toNat_inj]
    simp
  constructor
  · intro h
    unfold validate at h
    repeat' split at h
    all_goals first | cases h; done | skip
    · constructor <;> simp_all [Nat.pos_iff_ne_zero]
    · constructor <;> simp_all [UInt64.lt_iff_toNat_lt, Nat.pos_iff_ne_zero]
  · intro h
    have := h.blockSize_pos
    by_cases hb : c.boundary = 0
    · rw [validate, if_neg (by rw [hpos]; omega)]
      simp [h.align_pow, hb]
    · rw [validate, if_neg (by rw [hpos]; omega)]
      simp [h.align_pow, h.boundary_pow hb, hb, UInt64.lt_iff_toNat_lt,
        Nat.not_lt.2 (h.blockSize_le hb), Nat.not_lt.2 (h.align_le hb)]

/-! ## How much to ask for -/

/-- The least multiple of the granularity that holds a block wherever the grant starts: the
block, the distance to the next aligned address where grants are aligned less than blocks are,
and a second block where the first place might cross a boundary. -/
def growthRequest (c : Config) (granularity : Word) : Except Fault Word := do
  let aligned ←
    if c.align > granularity then Checked.add c.blockSize (c.align - granularity)
    else pure c.blockSize
  let want ← if c.boundary ≠ 0 then Checked.add aligned c.blockSize else pure aligned
  Checked.mul (← Checked.divCeil want granularity) granularity

/-! ## Text -/

/-- The three parameters by name. -/
def fields (c : Config) : List (String × String) :=
  [("block_size", toString c.blockSize.toNat), ("align", toString c.align.toNat),
    ("boundary", toString c.boundary.toNat)]

/-- The parameters as a structured value on one line. -/
def inspect (c : Config) : String :=
  "PoolConfig \x7b "
    ++ String.intercalate ", " (c.fields.map fun field => field.1 ++ ": " ++ field.2) ++ " \x7d"

end Config

end BusPool
