/-
BlockTransfer.LogFilter — which events are shown.

A filter is written as directives with commas between them; a part that is not
one is left out, and something is said about it. Directives that ask for spans
or for values never apply, for the events of this program lie in no span and
have no field with a value to ask for. Of the others that an event falls under,
the one that asks for most decides: the one with the longest topic, then the
one with most fields, and of two that ask for the same the later. A filter
without directives shows errors only.
-/
import BlockTransfer.LogFilter.Directive
import BlockTransfer.Text.Terminal

namespace BlockTransfer

/-- Which events are shown. -/
structure LogFilter where
  directives : List Directive
deriving DecidableEq, Repr

namespace LogFilter

/-- The texts of the directives of a filter. -/
def parts (text : String) : List String :=
  ((Text.splitAt ',' text.toList).map String.ofList).filter (· ≠ "")

/-- The filter when none is given. -/
def standard : String := "info"

/-- The directive of a filter without any. -/
def errorsOnly : Directive := ⟨none, none, [], Level.error.rank⟩

/-- Reads a filter; parts that are no directives are left out. -/
def ofText (text : String) : LogFilter :=
  match (parts text).filterMap fun part => (Directive.ofText part).toOption with
  | [] => ⟨[errorsOnly]⟩
  | directives => ⟨directives⟩

/-- Whether a part of a filter cannot even be cut. -/
def isBroken (part : String) : Bool :=
  match Directive.ofText part with
  | .error .brokenCut => true
  | _ => false

/-- Whether a filter has a part that cannot be cut: no run begins with it. -/
def breaks (text : String) : Bool :=
  (parts text).any isBroken

/-- What is said about the parts that are left out, up to one that cannot be
cut. -/
def complaints (text : String) : List String :=
  ((parts text).takeWhile (!isBroken ·)).filterMap fun part =>
    match Directive.ofText part with
    | .ok _ => none
    | .error error => some s!"ignoring `{part}`: {error.text}"

/-- The directive that decides about an event. -/
def deciding? (filter : LogFilter) (event : Event) : Option Directive :=
  (filter.directives.filter fun directive => directive.isPlain && directive.isAbout event).foldl
    (fun best? directive =>
      match best? with
      | none => some directive
      | some best => if best.isNoMoreSpecific directive then some directive else best?)
    none

/-- Whether an event is shown. -/
def shows (filter : LogFilter) (event : Event) : Bool :=
  match filter.deciding? event with
  | none => false
  | some directive => event.level.rank ≤ directive.verbosity

/-- The line of an event in a log. -/
def line (event : Event) : String :=
  let name := event.level.name
  String.ofList (List.replicate (5 - name.length) ' ') ++
    s!"{name} {event.topic.name}: {Text.visible event.message}"

end LogFilter

end BlockTransfer
