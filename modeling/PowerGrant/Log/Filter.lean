import PowerGrant.Log.Directive
import PowerGrant.Text.Cut

/-!
# Log filters

A filter is written as directives between commas; those that cannot be read are left out. The most
specific directive about a line decides whether it passes, and a line that no directive is about does
not. Without any directive, lines pass up to level `info`.
-/

namespace PowerGrant.Log

/-- A filter. -/
structure Filter where
  directives : List Directive
  deriving DecidableEq, Repr, Inhabited

namespace Filter

/-- The filter that a text writes. -/
def ofText (s : String) : Filter :=
  match (Text.pieces ',' s.toList).filterMap Directive.ofChars? with
  | [] => ⟨[{ level := .info }]⟩
  | directives => ⟨directives⟩

/-- The directive that decides about a line: the most specific one, and of several that are equally
specific the last. -/
def deciding (f : Filter) (l : Line) : Option Directive :=
  (f.directives.filter (·.applies l)).foldl (fun best d =>
    match best with
    | some b => if d.isLess b then some b else some d
    | none => some d) none

/-- Whether a line passes. -/
def passes (f : Filter) (l : Line) : Bool :=
  (f.deciding l).any fun d => l.level.rank ≤ d.level.rank

end Filter

end PowerGrant.Log
