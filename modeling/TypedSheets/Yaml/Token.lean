import TypedSheets.Yaml.ReadError

/-!
# Tokens

The tokens of a document. Collections in blocks are opened and closed by tokens
that stand for a change of indentation; a key is announced by a token before it,
also where only the colon behind it shows that it is one.
-/

namespace TypedSheets.Yaml

/-- A tag as it is written: a handle, if it has one, and the rest. -/
structure TagText where
  handle : Option String
  suffix : String
  deriving Repr, DecidableEq

inductive Directive where
  /-- The version that the document asks for. -/
  | version (major minor : Nat)
  /-- A handle and what it stands for. -/
  | handle (name meaning : String)
  /-- Any other directive has no effect. -/
  | other
  deriving Repr, DecidableEq

inductive Token where
  | directive (d : Directive)
  | documentStart
  | documentEnd
  | blockSequenceStart
  | blockMappingStart
  | blockEnd
  | flowSequenceStart
  | flowSequenceEnd
  | flowMappingStart
  | flowMappingEnd
  | blockEntry
  | flowEntry
  | key
  | value
  | alias (name : String)
  | anchor (name : String)
  | tag (t : TagText)
  /-- A scalar; a plain one is written without quotes. -/
  | scalar (text : String) (plain : Bool)
  | streamEnd
  /-- The text from here on has no tokens. -/
  | unreadable (cause : ReadError)
  deriving Repr, DecidableEq

end TypedSheets.Yaml
