import TypedSheets.Asset
import TypedSheets.Failure
import TypedSheets.Schema.Description
import TypedSheets.Schema.Primitive
import TypedSheets.Value.Text

/-!
# Records

A record type lists named fields with their kinds and defaults; a record has a value
for each field, in that order, and its first value is its key. Values that are read
from an asset are converted by the kind of their field: an integer becomes a double
or a member of an enumeration where the field asks for one. Nothing else is checked.
-/

namespace TypedSheets

open TypedSheets.Number TypedSheets.Schema

inductive FieldKind where
  | int
  | float
  | truth
  | text
  /-- A field of a kind that converts nothing. -/
  | any
  /-- A field whose kind has a text for its name that names nothing. -/
  | nameless (text : String)
  | member (e : Enumeration)
  deriving Repr, DecidableEq

structure RecordField where
  name : String
  kind : FieldKind
  default : Value
  deriving Repr

/-- The value of a field that is not given: a not-a-number is the same one in all records. -/
def RecordField.filling (f : RecordField) : Value :=
  match f.default with
  | .float .nan => .sharedNan .fieldDefault
  | value => value

structure RecordType where
  name : String
  fields : List RecordField
  deriving Repr

/-- The record type with some fields. Records would share the items of a default that is a
list or a map, so there is none. -/
def RecordType.make (name : String) (fields : List RecordField) :
    Except RecordError RecordType :=
  match fields.find? fun f => !f.default.isKey with
  | some f => .error (.sharedItems f.default.kindName f.name)
  | none => .ok { name, fields }

/-- A member of an enumeration as a value; of several names for one integer the first. -/
def memberValueOf (e : Enumeration) (m : EnumMember) : Value :=
  .member e.name (((e.memberOf? m.value).map EnumMember.name).getD m.name) m.value

/-- The kind of a declared field. -/
def Schema.Field.kind (f : Field) : FieldKind :=
  match f.enumeration with
  | some e => .member e
  | none =>
    match (Primitive.ofName? f.declaredType).map Primitive.family with
    | some .integer => .int
    | some .floating => .float
    | some .truth => .truth
    | _ => .text

/-- The default of a declared field: that of its primitive type, or the first member of its
enumeration. -/
def Schema.Field.default (f : Field) : Value :=
  match f.enumeration with
  | some e => (e.members.head?.map (memberValueOf e)).getD .null
  | none => ((Primitive.ofName? f.declaredType).map Primitive.defaultValue).getD .null

/-- The record type of a sheet. -/
def Schema.Description.recordType (d : Description) : RecordType :=
  { name := d.sheet ++ "VO"
    fields := d.fields.map fun f => { name := f.name, kind := f.kind, default := f.default } }

namespace RecordType

/-- Whether a record type has a field. -/
def declares (t : RecordType) (name : String) : Bool := t.fields.any fun f => f.name == name

/-- The kind of a field; an undeclared one converts nothing. -/
def kindOf (t : RecordType) (name : String) : FieldKind :=
  ((t.fields.find? fun f => f.name == name).map RecordField.kind).getD .any

/-- The values of all fields: the given ones, and defaults for the others. -/
def fill (t : RecordType) (given : Entries) : Entries :=
  t.fields.map fun f => (f.name, (given.lookup f.name).getD f.filling)

/-- The value of a record that is called while the record is made, because its field has the
name of a step of the making: setting or getting a field, or the last step. The first two are
looked up in the type, where they have their defaults. -/
def hook? (t : RecordType) (record : Entries) : Option Value :=
  match t.fields.find? fun f => f.name == "__setattr__" || f.name == "__getattribute__" with
  | some f => some f.default
  | none => record.lookup "__post_init__"

/-- The record with the given values; the other fields have their defaults. No value can be
called. -/
def create (t : RecordType) (given : Entries) : Except RecordError Entries :=
  let record := t.fill given
  match t.hook? record with
  | some value => .error (.notCallable value.kindName)
  | none => .ok record

/-- The record with the given values, all of which must belong to fields. Of several values
for one field the last counts. -/
def build (t : RecordType) (given : Entries) : Except RecordError Entries :=
  match given.find? fun entry => !t.declares entry.1 with
  | some entry => .error (.unexpectedArgument t.name entry.1)
  | none => t.create given.reverse

/-- The kinds of all fields can be looked up. -/
def checkKinds (t : RecordType) : Except RecordError Unit :=
  t.fields.forM fun f =>
    match f.kind with
    | .nameless text => .error (.notExpression text)
    | _ => .ok ()

end RecordType

/-- The value of a field, which the record must have. -/
def RecordType.valueOf (t : RecordType) (record : Entries) (field : String) :
    Except RecordError Value :=
  match record.lookup field with
  | some value => .ok value
  | none => .error (.noField t.name field)

/-- The key of a record: its first value. -/
def recordKey (record : Entries) : Value := (record.head?.map Prod.snd).getD .null

/-- The key of a record as an index asks for it; a field of that name stands in the way. -/
def askedKey (record : Entries) : Except RecordError Value :=
  match record.lookup "get_key" with
  | some value => .error (.notCallable value.kindName)
  | none => .ok (recordKey record)

/-- Whether two records hold the same values. -/
def sameRecord (a b : Entries) : Bool := Value.sameItems (a.map Prod.snd) (b.map Prod.snd)

/-- A value as assets hold it: a member is stored as its integer. -/
def plainValue : Value → Value
  | .member _ _ n => .int n
  | value => value

/-- The fields of a record in order, as a mapping of plain values. -/
def recordMap (record : Entries) : Value :=
  .map (record.map fun entry => (.text entry.1, plainValue entry.2))

/-- The attributes of an object that is no record; those whose names start with an
underscore are private. -/
def publicMap (attributes : Entries) : Value :=
  .map ((attributes.filter fun entry => !"_".isPrefixOf entry.1).foldl
    (fun built entry => Value.putEntry (.text entry.1) (plainValue entry.2) built) [])

/-- The double nearest to an integer. -/
def widened (n : Int) : Except Failure Value :=
  match Double.ofInt? n with
  | some x => .ok (.float x)
  | none => .error (.record .beyondDouble)

/-- The member of an enumeration with a value. -/
def memberFor (e : Enumeration) (value : Value) : Except Failure Value :=
  match e.members.find? fun m => Value.same (.int m.value) value with
  | some m => .ok (memberValueOf e m)
  | none =>
    match value.shown with
    | .ok shown => .error (.record (.notMember shown e.name))
    | .error cause => .error (.oversized cause)

/-- A value converted by the kind of its field. -/
def convertValue (kind : FieldKind) (value : Value) : Except Failure Value :=
  match kind, value with
  | .member e, .member owner label n =>
    if owner = e.name then .ok (.member owner label n) else memberFor e (.member owner label n)
  | .member e, value => memberFor e value
  | .float, .int n => widened n
  | .float, .member _ _ n => widened n
  | _, value => .ok value

/-- The values of an asset entry by their fields, converted in order. -/
def convertEntries (t : RecordType) : List (Value × Value) → Except Failure Entries
  | [] => .ok []
  | (key, value) :: rest =>
    match key with
    | .text name =>
      if t.declares name then do
        let converted ← convertValue (t.kindOf name) value
        let others ← convertEntries t rest
        pure ((name, converted) :: others)
      else .error (.record (.undeclaredField (Text.quote name) t.name))
    | key =>
      match key.shown with
      | .ok shown => .error (.record (.undeclaredField shown t.name))
      | .error cause => .error (.oversized cause)

end TypedSheets
