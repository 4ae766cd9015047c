import PowerGrant.Ascending
import PowerGrant.Text.Blank
import PowerGrant.Text.Cut
import PowerGrant.Text.Numeral

/-!
# CPU lists

A CPU list names CPUs by single ids and closed ranges between commas, as in `0-3,5,7-9`.

* `parseCpuList` expands a list to the ids it covers, in the order and as often as it names them.
  Any fault fails the whole list, and the leftmost token with a fault decides.
* `formatCpuList` writes a set of ids by its maximal runs.
-/

namespace PowerGrant

/-- The number of a CPU on its node. -/
abbrev CpuId := UInt32

/-- How many CPUs a single range may cover. -/
def maxRangeWidth : Nat := 8192

/-- What is wrong with a CPU list. -/
inductive CpuListError where
  /-- Nothing stands between two commas of `list`. -/
  | emptyToken (list : String)
  /-- `token`, an id or an end of a range, is no number of a CPU. -/
  | invalidCpu (token : String) (fault : Text.NumeralError)
  /-- A range starts above its end. -/
  | reversedRange (first last : CpuId)
  /-- A range covers more than `maxRangeWidth` CPUs. -/
  | rangeTooWide (first last : CpuId)
  deriving DecidableEq, Repr, Inhabited

/-- The wording of a CPU list's fault. -/
def CpuListError.message : CpuListError → String
  | .emptyToken list => s!"empty CPU token in list `{list}`"
  | .invalidCpu token fault => s!"invalid CPU id `{token}`: {fault.message}"
  | .reversedRange first last => s!"reversed CPU range `{first}-{last}`"
  | .rangeTooWide first last =>
    s!"CPU range `{first}-{last}` spans more than {maxRangeWidth} CPUs"

namespace CpuList

/-- The ids from `first` on, `count` of them. -/
def idsFrom (first : CpuId) (count : Nat) : List CpuId :=
  (List.range count).map fun i => UInt32.ofNat (first.toNat + i)

/-- The number that a text between blanks writes. -/
def readCpu (cs : List Char) : Except CpuListError CpuId :=
  let token := Text.trim cs
  match Text.readUInt32 token with
  | .ok cpu => .ok cpu
  | .error fault => .error (.invalidCpu (String.ofList token) fault)

/-- The ids of a range with these ends. -/
def expand (first last : CpuId) : Except CpuListError (List CpuId) :=
  if last < first then .error (.reversedRange first last)
  else if maxRangeWidth ≤ last.toNat - first.toNat then .error (.rangeTooWide first last)
  else .ok (idsFrom first (last.toNat - first.toNat + 1))

/-- The ids of one token of `list`: a number, or two numbers around the first dash. -/
def readToken (list : String) (cs : List Char) : Except CpuListError (List CpuId) :=
  match Text.trim cs with
  | [] => .error (.emptyToken list)
  | token =>
    match Text.cut? '-' token with
    | none => (readCpu token).map ([·])
    | some (a, b) => do
      let first ← readCpu a
      let last ← readCpu b
      expand first last

/-- The ids of the tokens of `list`, one token after the other. -/
def readTokens (list : String) : List (List Char) → Except CpuListError (List CpuId)
  | [] => .ok []
  | token :: tokens => do
    let cpus ← readToken list token
    let more ← readTokens list tokens
    return cpus ++ more

/-- The number after that of a CPU; the highest has none. -/
def next? (cpu : CpuId) : Option CpuId :=
  if cpu.toNat + 1 < UInt32.size then some (cpu + 1) else none

/-- The maximal runs of consecutive ids of a rising list, by their ends; the first of them reaches
from `first` to `last` already. -/
def runsFrom (first last : CpuId) : List CpuId → List (CpuId × CpuId)
  | [] => [(first, last)]
  | cpu :: cpus =>
    if next? last = some cpu then runsFrom first cpu cpus
    else (first, last) :: runsFrom cpu cpu cpus

/-- The maximal runs of consecutive ids of a rising list, by their ends. -/
def runs : List CpuId → List (CpuId × CpuId)
  | [] => []
  | cpu :: cpus => runsFrom cpu cpu cpus

/-- The token of a run. -/
def token (run : CpuId × CpuId) : String :=
  if run.1 = run.2 then toString run.1.toNat else s!"{run.1.toNat}-{run.2.toNat}"

end CpuList

/-- The CPU ids that a list covers, in its order and with duplicates. -/
def parseCpuList (list : String) : Except CpuListError (List CpuId) :=
  CpuList.readTokens list (Text.pieces ',' list.toList)

/-- The shortest CPU list of a set of ids, given in any order and with duplicates. -/
def formatCpuList (cpus : List CpuId) : String :=
  ",".intercalate ((CpuList.runs (ascending cpus)).map CpuList.token)

end PowerGrant
