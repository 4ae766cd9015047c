import PowerGrant.Yaml.Scanner

/-!
# The structure of YAML documents

A document is written down as events: a scalar, an alias, or the start and the end of a list or a
mapping with the events of what is in it. Where a value is missing there is an empty scalar. Every node
may have an anchor, by which an alias refers to it, and a tag.

* `documents?`: the events of each document of a text.

The readers take what tokens follow and give the events in front of those that follow them. They call
each other and pass on one less of their first argument.
-/

namespace PowerGrant.Yaml

/-- What a node says about itself. -/
structure Properties where
  anchor : Option String := none
  tag : Option String := none
  deriving DecidableEq, Repr, Inhabited

/-- A part of a document. -/
inductive Event where
  | alias (name : String)
  | scalar (properties : Properties) (text : String) (plain : Bool)
  | listStart (properties : Properties)
  | listEnd
  | mappingStart (properties : Properties)
  | mappingEnd
  deriving DecidableEq, Repr, Inhabited

namespace Event

/-- The scalar that stands for a value that is missing. -/
def empty : Event := .scalar {} "" true

/-- What a handle of tags stands for. -/
abbrev Handles := List (String × String)

/-- What handles stand for if nothing is said about them. -/
def standardHandles : Handles := [("!", "!"), ("!!", "tag:yaml.org,2002:")]

/-- The tag of a handle and a suffix. -/
def tagOf? (handles : Handles) (handle suffix : String) : Option String :=
  if handle = "" then some suffix else (handles.lookup handle).map (· ++ suffix)

/-- The anchor and the tag in front of a node, in either order, and what follows them. -/
def properties? (handles : Handles) : List Token → Option (Properties × List Token)
  | .anchor a :: .tag h s :: ts | .tag h s :: .anchor a :: ts => do
    return (⟨some a, ← tagOf? handles h s⟩, ts)
  | .anchor a :: ts => some (⟨some a, none⟩, ts)
  | .tag h s :: ts => do return (⟨none, ← tagOf? handles h s⟩, ts)
  | ts => some ({}, ts)

/-- Whether one of these tokens is next. -/
def atOne (those : List Token) (ts : List Token) : Bool := ts.head?.any those.contains

/-- Events and what follows them. -/
abbrev Reading := Option (List Event × List Token)

/-- The reading with events in front. -/
def after (es : List Event) (r : Reading) : Reading := r.map fun (more, ts) => (es ++ more, ts)

/-- The tag of a scalar: a lone exclamation mark says nothing. -/
def scalarTag (p : Properties) : Properties :=
  if p.tag = some "!" then { p with tag := none } else p

mutual

/-- A node. Between brackets lines do not nest; the items of a list that is the value of an entry need
not be indented further than its key. -/
def node? (handles : Handles) : Nat → Bool → Bool → List Token → Reading
  | 0, _, _, _ => none
  | fuel + 1, lines, flush, ts =>
    match ts with
    | .alias name :: ts => some ([.alias name], ts)
    | ts =>
      match properties? handles ts with
      | none => none
      | some (p, ts) =>
        match ts with
        | .scalar text plain :: ts => some ([.scalar (scalarTag p) text plain], ts)
        | .openList :: ts => after [.listStart p] (bracketItems? handles fuel true ts)
        | .openMapping :: ts => after [.mappingStart p] (bracketEntries? handles fuel true ts)
        | ts =>
          if flush && atOne [.item] ts then after [.listStart p] (flushItems? handles fuel ts)
          else if lines && atOne [.listStart] ts then
            after [.listStart p] (lineItems? handles fuel ts.tail)
          else if lines && atOne [.mappingStart] ts then
            after [.mappingStart p] (lineEntries? handles fuel ts.tail)
          else if p ≠ {} then some ([.scalar p "" true], ts)
          else none

/-- A node, or an empty scalar if one of these tokens is next. -/
def nodeUnless? (handles : Handles) : Nat → List Token → Bool → Bool → List Token → Reading
  | 0, _, _, _, _ => none
  | fuel + 1, those, lines, flush, ts =>
    if atOne those ts then some ([.empty], ts) else node? handles fuel lines flush ts

/-- The value behind a token for it, or an empty scalar if there is none. -/
def value? (handles : Handles) : Nat → List Token → Bool → List Token → Reading
  | 0, _, _, _ => none
  | fuel + 1, those, lines, ts =>
    match ts with
    | .value :: ts => nodeUnless? handles fuel those lines lines ts
    | ts => some ([.empty], ts)

/-- The items of a list, each behind a dash, up to its end. -/
def lineItems? (handles : Handles) : Nat → List Token → Reading
  | 0, _ => none
  | fuel + 1, ts =>
    match ts with
    | .item :: ts =>
      match nodeUnless? handles fuel [.item, .blockEnd] true false ts with
      | some (es, ts) => after es (lineItems? handles fuel ts)
      | none => none
    | .blockEnd :: ts => some ([.listEnd], ts)
    | _ => none

/-- The items of a list that is not indented, each behind a dash. -/
def flushItems? (handles : Handles) : Nat → List Token → Reading
  | 0, _ => none
  | fuel + 1, ts =>
    match ts with
    | .item :: ts =>
      match nodeUnless? handles fuel [.item, .key, .value, .blockEnd] true false ts with
      | some (es, ts) => after es (flushItems? handles fuel ts)
      | none => none
    | ts => some ([.listEnd], ts)

/-- The entries of a mapping up to its end. -/
def lineEntries? (handles : Handles) : Nat → List Token → Reading
  | 0, _ => none
  | fuel + 1, ts =>
    let ends : List Token := [.key, .value, .blockEnd]
    match ts with
    | .key :: ts =>
      match nodeUnless? handles fuel ends true true ts with
      | some (k, ts) =>
        match value? handles fuel ends true ts with
        | some (v, ts) => after (k ++ v) (lineEntries? handles fuel ts)
        | none => none
      | none => none
    | .blockEnd :: ts => some ([.mappingEnd], ts)
    | _ => none

/-- The items of a list between brackets, behind a comma unless it is the first; the list may end behind
a comma. A key makes an item a mapping of its own. -/
def bracketItems? (handles : Handles) : Nat → Bool → List Token → Reading
  | 0, _, _ => none
  | fuel + 1, first, ts =>
    match first, ts with
    | _, .closeList :: ts => some ([.listEnd], ts)
    | false, .comma :: .closeList :: ts => some ([.listEnd], ts)
    | false, .comma :: ts => bracketItem? handles fuel ts
    | false, _ => none
    | true, ts => bracketItem? handles fuel ts

/-- An item of a list between brackets, and the items after it. A key that is missing takes the place of
the token behind its sign. -/
def bracketItem? (handles : Handles) : Nat → List Token → Reading
  | 0, _ => none
  | fuel + 1, ts =>
    match ts with
    | .key :: ts =>
      let key :=
        if atOne [.value, .comma, .closeList] ts then some ([.empty], ts.tail)
        else node? handles fuel false false ts
      match key with
      | some (k, ts) =>
        match value? handles fuel [.comma, .closeList] false ts with
        | some (v, ts) =>
          after (.mappingStart {} :: k ++ v ++ [.mappingEnd]) (bracketItems? handles fuel false ts)
        | none => none
      | none => none
    | ts =>
      match node? handles fuel false false ts with
      | some (es, ts) => after es (bracketItems? handles fuel false ts)
      | none => none

/-- The entries of a mapping between brackets, behind a comma unless it is the first; the mapping may end
behind a comma. -/
def bracketEntries? (handles : Handles) : Nat → Bool → List Token → Reading
  | 0, _, _ => none
  | fuel + 1, first, ts =>
    match first, ts with
    | _, .closeMapping :: ts => some ([.mappingEnd], ts)
    | false, .comma :: .closeMapping :: ts => some ([.mappingEnd], ts)
    | false, .comma :: ts => bracketEntry? handles fuel ts
    | false, _ => none
    | true, ts => bracketEntry? handles fuel ts

/-- An entry of a mapping between brackets, and the entries after it. -/
def bracketEntry? (handles : Handles) : Nat → List Token → Reading
  | 0, _ => none
  | fuel + 1, ts =>
    match ts with
    | .key :: ts =>
      match nodeUnless? handles fuel [.value, .comma, .closeMapping] false false ts with
      | some (k, ts) =>
        match value? handles fuel [.comma, .closeMapping] false ts with
        | some (v, ts) => after (k ++ v) (bracketEntries? handles fuel false ts)
        | none => none
      | none => none
    | ts =>
      match node? handles fuel false false ts with
      | some (es, ts) => after (es ++ [.empty]) (bracketEntries? handles fuel false ts)
      | none => none

end

/-! ## Documents -/

/-- What directives say. -/
structure Directives where
  versioned : Bool := false
  handles : Handles := []
  deriving DecidableEq, Repr, Inhabited

/-- What directives say, and what follows them: at most one gives a version, which has to be a known one,
and none says anything about a handle twice. -/
def directives? (d : Directives) : List Token → Option (Directives × List Token)
  | .version major minor :: ts =>
    if d.versioned || major ≠ 1 || (minor ≠ 1 && minor ≠ 2) then none
    else directives? { d with versioned := true } ts
  | .handle name stem :: ts =>
    if (d.handles.lookup name).isSome then none
    else directives? { d with handles := d.handles ++ [(name, stem)] } ts
  | ts => some (d, ts)

/-- Whether a token is a directive. -/
def isDirective : Token → Bool
  | .version _ _ | .handle _ _ => true
  | _ => false

/-- A document: its first node may stand without a mark only at the start of a text. -/
def document? (fuel : Nat) (first : Bool) (ts : List Token) : Reading :=
  if first && !ts.head?.any (fun t => isDirective t || t = .documentStart) then
    node? standardHandles fuel true false ts
  else
    match directives? {} ts with
    | some (d, .documentStart :: ts) =>
      if ts.isEmpty || ts.head?.any isDirective || atOne [.documentStart, .documentEnd] ts then
        some ([.empty], ts)
      else node? (d.handles ++ standardHandles) fuel true false ts
    | _ => none

/-- The documents from a token on. -/
def documentsFrom? (nodeFuel : Nat) : Nat → Bool → List Token → Option (List (List Event))
  | 0, _, _ => none
  | fuel + 1, first, ts =>
    let ts := if first then ts else ts.dropWhile (· = .documentEnd)
    if ts.isEmpty then some []
    else
      match document? nodeFuel first ts with
      | some (es, ts) => (documentsFrom? nodeFuel fuel false ts).map (es :: ·)
      | none => none

end Event

/-- The events of each document of a text. A text without documents has an empty one. -/
def documents? (text : String) : Option (List (List Event)) := do
  let ts ← tokens? text
  match ← Event.documentsFrom? (8 * ts.length + 8) (ts.length + 1) true ts with
  | [] => return [[.empty]]
  | ds => return ds

example : documents? "a: *b\n" = some [[.mappingStart {}, .scalar {} "a" true, .alias "b",
    .mappingEnd]] := by decide +kernel

example : documents? "- ? x\n- &n !t\n---\n" = some [[.listStart {}, .mappingStart {},
    .scalar {} "x" true, .empty, .mappingEnd, .scalar ⟨some "n", some "!t"⟩ "" true, .listEnd],
    [.empty]] := by decide +kernel

end PowerGrant.Yaml
