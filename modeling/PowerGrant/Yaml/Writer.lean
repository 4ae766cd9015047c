import PowerGrant.Json.Writer
import PowerGrant.Yaml.Scalar
import PowerGrant.Yaml.Value

/-!
# Writing YAML

A value is written on lines of its own. What belongs to the entry of a mapping is indented by two
spaces, but a list is not; a list or a mapping without content is written in brackets. A text is
written plainly if it would be read back as this text, and else in double quotes.
-/

namespace PowerGrant.Yaml

/-- Whether a text can be written plainly: it is read back as this text. -/
def isPlain (s : String) : Bool :=
  let cs := s.toList
  let read := readPlain? false 0 { rest := cs }
  let isText := match Value.ofPlain? s with
    | some (.text _) => true
    | _ => false
  plainBegins false cs && read.any (·.1 = cs) && isText &&
    cs.all fun c => 0x20 ≤ c.toNat && c.toNat ≤ 0x7E

/-- How a text is written. -/
def writeText (s : String) : String := if isPlain s then s else Json.writeText s

mutual

/-- The lines of a value. -/
def valueLines : Json → List String
  | .null => ["null"]
  | .bool b => [if b then "true" else "false"]
  | .integer n => [toString n]
  | .real literal => [literal]
  | .text s => [writeText s]
  | .broken => ["null"]
  | .array [] => ["[]"]
  | .array (v :: vs) => itemLines (v :: vs)
  | .object [] => ["\x7b\x7d"]
  | .object (e :: es) => entryLines (e :: es)

/-- The lines of the items of a list. -/
def itemLines : List Json → List String
  | [] => []
  | v :: vs =>
    match valueLines v with
    | [] => itemLines vs
    | first :: rest => ("- " ++ first) :: (rest.map ("  " ++ ·) ++ itemLines vs)

/-- The lines of the entries of a mapping. -/
def entryLines : List (String × Json) → List String
  | [] => []
  | (name, v) :: es =>
    let lines := match v with
      | .object (_ :: _) => (writeText name ++ ":") :: (valueLines v).map ("  " ++ ·)
      | .array (_ :: _) => (writeText name ++ ":") :: valueLines v
      | _ => (valueLines v).map fun line => writeText name ++ ": " ++ line
    lines ++ entryLines es

end

/-- The document of a value. -/
def write (j : Json) : String := "".intercalate ((valueLines j).map (· ++ "\n"))

end PowerGrant.Yaml
