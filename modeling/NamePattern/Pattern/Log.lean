import NamePattern.Generator.Measure
import NamePattern.Grammar
import NamePattern.Text.Quoted

/-!
# What is said about a pattern

The brackets of a pattern can be wrong in three ways, and a pattern is refused for the first thing
that is wrong with it. Compiling a pattern can be watched besides: each bracket that fits is
reported with its position and the depth after it, and a last report tells how the whole pattern
came out. Positions count characters.
-/

namespace NamePattern

/-- A character between single quotes. -/
def quoteChar (c : Char) : String := "'" ++ String.singleton c ++ "'"

/-! ## Errors -/

/-- Why a pattern is refused. -/
inductive PatternError where
  /-- A closer stands where no group is open. -/
  | unbalanced (position : Nat) (found : GroupKind)
  /-- A closer stands where the innermost open group is of the other kind. -/
  | mismatched (position : Nat) (expected found : GroupKind)
  /-- The pattern ends while a group is open; the innermost one was opened at this position. -/
  | unclosed (position : Nat) (kind : GroupKind)
  deriving DecidableEq, Repr

def PatternError.message : PatternError → String
  | .unbalanced position found =>
      "unbalanced brackets: " ++ quoteChar found.closer ++ " at position " ++ position.repr ++
        " closes no open group"
  | .mismatched position expected found =>
      "mismatched bracket type at position " ++ position.repr ++ ": expected " ++
        quoteChar expected.closer ++ ", found " ++ quoteChar found.closer
  | .unclosed position kind =>
      "unclosed group: " ++ quoteChar kind.opener ++ " opened at position " ++ position.repr ++
        " is never closed"

/-! ## Events -/

inductive Level where
  | trace
  | debug
  deriving DecidableEq, Repr

/-- What is reported during a compilation. -/
inductive Event where
  /-- A group was opened; the depth counts it. -/
  | opened (kind : GroupKind) (position depth : Nat)
  /-- A group was closed; the depth no longer counts it. -/
  | closed (kind : GroupKind) (position depth : Nat)
  /-- The pattern has a generator with these measures. -/
  | compiled (pattern : String) (stats : Generator.Stats)
  | failed (pattern : String) (error : PatternError)
  deriving DecidableEq

namespace Event

/-- Brackets are traced; how a whole pattern came out is of wider interest. -/
def level : Event → Level
  | .opened .. => .trace
  | .closed .. => .trace
  | .compiled .. => .debug
  | .failed .. => .debug

def bracketText (verb : String) (bracket : Char) (position depth : Nat) : String :=
  verb ++ " " ++ quoteChar bracket ++ " at " ++ position.repr ++ " (depth " ++ depth.repr ++ ")"

/-- What an event says where the classes of characters are these. -/
def textIn (classes : Text.CharClasses) : Event → String
  | .opened kind position depth => bracketText "opened" kind.opener position depth
  | .closed kind position depth => bracketText "closed" kind.closer position depth
  | .compiled pattern stats =>
      "compiled pattern " ++ Text.quoted classes pattern ++ " (" ++ stats.nodeCount.repr ++
        " nodes, " ++ stats.combinations.repr ++ " combinations)"
  | .failed pattern error =>
      "failed to compile pattern " ++ Text.quoted classes pattern ++ ": " ++ error.message

def text : Event → String := textIn .unicode

end Event

/-- The report on how a pattern came out. -/
def verdict (pattern : String) : Except PatternError Generator → Event
  | .ok g => .compiled pattern g.stats
  | .error error => .failed pattern error

end NamePattern
