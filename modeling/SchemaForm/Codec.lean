import SchemaForm.Calendar.Iso
import SchemaForm.DataError
import SchemaForm.Json.Writing
import SchemaForm.Settings
import SchemaForm.Text.Blank

/-!
# Codecs

An input field is edited as text, holds a scalar, and exchanges that scalar
with documents.  A codec fixes how text, scalar and document belong together
for one type and format of fields.

Main results:

- Theorem `encode_none`: no value is the empty text under every codec.
-/

namespace SchemaForm

open Calendar (Date DateTime)

/-- A value of an input field. -/
inductive Scalar where
  | integer (n : Int)
  | number (x : Binary64)
  | text (s : String)
  | date (day : Date)
  | dateTime (moment : DateTime)
  | path (s : String)
deriving DecidableEq

namespace Scalar

/-- The name of the kind of a scalar. -/
def kind : Scalar → String
  | .integer _ => "integer"
  | .number _ => "number"
  | .text _ => "text"
  | .date _ => "date"
  | .dateTime _ => "datetime"
  | .path _ => "path"

/-- A scalar as data; times lose their fraction of a second. -/
def toNative : Scalar → Json
  | .integer n => .number (.integer n)
  | .number x => Json.ofBinary64 x
  | .text s => .string s
  | .date day => .string (Calendar.Iso.dateText day)
  | .dateTime moment => .string (Calendar.Iso.secondText moment)
  | .path s => .string s

/-- A scalar in full. -/
def toJson : Scalar → Json
  | .dateTime moment => .string (Calendar.Iso.dateTimeText moment)
  | scalar => scalar.toNative

end Scalar

/-- How an input field reads and writes its value. -/
inductive Codec where
  | integer
  | number
  | date (pattern : String)
  | dateTime (pattern : String)
  | path
  | plain
deriving DecidableEq, Repr

namespace Codec

/-- The codec of a field by its format, or else by its type. -/
def ofField (type : String) (format : Option String) (patterns : DatePatterns) : Codec :=
  match format with
  | some "date" => .date patterns.date
  | some "date-time" => .dateTime patterns.dateTime
  | some "path" | some "file-path" | some "directory-path" => .path
  | _ =>
      match type with
      | "integer" => .integer
      | "number" => .number
      | _ => .plain

/-- The name of what a codec reads. -/
def target : Codec → String
  | .integer => "integer"
  | .number => "number"
  | .date _ => "date"
  | .dateTime _ => "date-time"
  | .path => "path"
  | .plain => "text"

/-! ## Text -/

/-- The value that a text stands for under its codec, with the reason if there is none. -/
def readText (codec : Codec) (text : String) : Except ReadReason Scalar :=
  match codec with
  | .integer =>
      match Text.Integer.read Text.Integer.signed64 (Text.trim text.toList) with
      | .ok n => .ok (.integer n)
      | .error fault => .error (.integer fault)
  | .number =>
      match Binary64.read (Text.trim text.toList) with
      | .ok x => if x.isFinite then .ok (.number x) else .error .notFinite
      | .error fault => .error (.number fault)
  | .date pattern =>
      match Date.read text pattern with
      | .ok day => .ok (.date day)
      | .error fault => .error (.date fault)
  | .dateTime pattern =>
      match DateTime.read text pattern with
      | .ok moment => .ok (.dateTime moment)
      | .error fault => .error (.date fault)
  | .path => .ok (.path text)
  | .plain => .ok (.text text)

/-- The value that an entered text stands for; the empty text is no value. -/
def decode (codec : Codec) (text : String) : Except DataError (Option Scalar) :=
  if text.isEmpty then .ok none
  else
    match codec.readText text with
    | .ok scalar => .ok (some scalar)
    | .error reason => .error (.unreadable text codec.target reason)

/-- A text that a pattern wrote, or the error that it wrote none. -/
def written (pattern : String) : Option String → Except DataError String
  | some text => .ok text
  | none => .error (.unwritable pattern)

/-- The text in which a value is edited; no value is the empty text. -/
def encode (codec : Codec) : Option Scalar → Except DataError String
  | none => .ok ""
  | some scalar =>
      match codec, scalar with
      | .date pattern, .date day => written pattern (day.write? pattern)
      | .date pattern, .dateTime moment => written pattern (moment.date.write? pattern)
      | .dateTime pattern, .dateTime moment => written pattern (moment.write? pattern)
      | .dateTime pattern, .date day =>
          written pattern (DateTime.write? ⟨day, Calendar.Time.midnight⟩ pattern)
      | _, .integer n => .ok (toString n)
      | _, .number x => .ok x.plain
      | _, .text s => .ok s
      | _, .path s => .ok s
      | _, .date day => .ok (Calendar.Iso.dateText day)
      | _, .dateTime moment => .ok (Calendar.Iso.secondText moment)

/-! ## Data -/

/-- What a codec expects in data. -/
def expectation : Codec → String
  | .integer => "an integer"
  | .number => "a number"
  | .date _ => "an ISO date string"
  | .dateTime _ => "an ISO date-time string"
  | .path => "a path string"
  | .plain => "a string"

/-- The value of a field in data, in the way of its codec; `null` is no value. -/
def ofNative (codec : Codec) (field : String) (native : Json) :
    Except DataError (Option Scalar) :=
  let misshapen : DataError := .shape field codec.expectation native
  match native with
  | .null => .ok none
  | native =>
      match codec with
      | .integer =>
          match native.asInteger? with
          | some n => .ok (some (.integer n))
          | none => .error misshapen
      | .number =>
          match native.asBinary64? with
          | some x => .ok (some (.number x))
          | none => .error misshapen
      | .date _ =>
          match native with
          | .string text =>
              match Calendar.Iso.readDate text with
              | .ok day => .ok (some (.date day))
              | .error fault => .error (.unreadable text "ISO date" (.date fault))
          | _ => .error misshapen
      | .dateTime _ =>
          match native with
          | .string text =>
              match Calendar.Iso.readDateTime text with
              | .ok moment => .ok (some (.dateTime moment))
              | .error fault => .error (.unreadable text "ISO date-time" (.date fault))
          | _ => .error misshapen
      | .path =>
          match native with
          | .string text => .ok (some (.path text))
          | _ => .error misshapen
      | .plain =>
          match native with
          | .string text => .ok (some (.text text))
          | .number n => .ok (some (.text n.text))
          | .bool b => .ok (some (.text (if b then "true" else "false")))
          | _ => .error misshapen

/-- The text in which a value of data is edited. -/
def textOfNative (codec : Codec) (field : String) (native : Json) : Except DataError String := do
  codec.encode (← codec.ofNative field native)

/-- The data that an entered text stands for. -/
def nativeOfText (codec : Codec) (text : String) : Except DataError Json := do
  match ← codec.decode text with
  | some scalar => return scalar.toNative
  | none => return .null

/-! ## Documents -/

/-- A codec as a document. -/
def toJson : Codec → Json
  | .integer => .object [("kind", .string "integer")]
  | .number => .object [("kind", .string "number")]
  | .date pattern => .object [("kind", .string "date"), ("pattern", .string pattern)]
  | .dateTime pattern => .object [("kind", .string "date_time"), ("pattern", .string pattern)]
  | .path => .object [("kind", .string "path")]
  | .plain => .object [("kind", .string "identity")]

/-! ## Laws -/

/-- No value is the empty text under every codec. -/
@[simp]
theorem encode_none (codec : Codec) : codec.encode none = .ok "" :=
  rfl

end Codec
end SchemaForm
