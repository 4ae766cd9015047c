import PowerGrant.Json.Record

/-!
# Power profiles

A power profile as a node's profile service describes it. The service answers for a name that it does
not know with a profile of which nothing is given: the empty profile.
-/

namespace PowerGrant

/-- The settings of a power profile, as far as they are given. -/
structure Profile where
  id : Option UInt32 := none
  name : Option String := none
  /-- The lowest frequency, in MHz. -/
  minFreq : Option UInt32 := none
  /-- The highest frequency, in MHz. -/
  maxFreq : Option UInt32 := none
  /-- The energy-performance preference. -/
  epp : Option String := none
  deriving DecidableEq, Repr, Inhabited

namespace Profile

/-- Whether nothing is given. -/
def isEmpty (p : Profile) : Bool := p = {}

/-- The profile as JSON, which leaves out what is not given. -/
def toJson (p : Profile) : Json :=
  Json.present [("id", p.id.map (.nat ·.toNat)), ("name", p.name.map .text),
    ("min_freq", p.minFreq.map (.nat ·.toNat)), ("max_freq", p.maxFreq.map (.nat ·.toNat)),
    ("epp", p.epp.map .text)]

/-- A number or `null`, which may be missing. -/
def optUInt32? : Option Json → Option (Option UInt32) :=
  Json.orDefault? none (Json.optional? Json.uint32?)

/-- A text or `null`, which may be missing. -/
def optText? : Option Json → Option (Option String) :=
  Json.orDefault? none (Json.optional? Json.text?)

/-- The profile that a JSON value describes. -/
def ofJson? (j : Json) : Option Profile :=
  match Json.slots ["id", "name", "min_freq", "max_freq", "epp"] j with
  | some [id, name, minFreq, maxFreq, epp] => do
    return {
      id := ← optUInt32? id
      name := ← optText? name
      minFreq := ← optUInt32? minFreq
      maxFreq := ← optUInt32? maxFreq
      epp := ← optText? epp }
  | _ => none

end Profile

end PowerGrant
