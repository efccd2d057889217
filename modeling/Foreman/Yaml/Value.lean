import Foreman.Yaml.Error
import Foreman.Json.Print
import Foreman.Number.FloatText
import Foreman.Number.IntText
import Foreman.Time.Layout
import Foreman.Text.Bytes
import Foreman.Text.Quote

/-!
# YAML values

The value a document stands for, a scalar's value, and values as JSON. A plain scalar is read
off its text as null, a boolean, a time, an integer (any base prefix, underscores ignored), an
unsigned 64-bit integer, a float, else a string; an explicit tag must agree with the reading.
A mapping remembers whether all keys were strings; keys become text only toward JSON. JSON has
no infinities or NaN, so such a float cannot be written, nor a time whose offset is a whole
day or more.
-/

namespace Foreman.Yaml

inductive Value where
  | null
  | bool (b : Bool)
  | int (n : Int)
  | float (x : Real64)
  | str (s : String)
  | time (t : Stamp)
  | seq (items : List Value)
  /-- A mapping, and whether all its keys are strings. -/
  | map (entries : List (Value × Value)) (stringKeyed : Bool)
  deriving Inhabited

namespace Value

/-- Whether two keys are the same key of a mapping: equal scalars of the same kind. Floats
compare by value, so NaN is no key's equal and the two zeros are one key. -/
def sameKey : Value → Value → Bool
  | .null, .null => true
  | .bool a, .bool b => a == b
  | .int a, .int b => a == b
  | .float (.finite n m), .float (.finite n' m') =>
    (m.isZero && m'.isZero) || (n == n' && m.mant == m'.mant && m.exp == m'.exp)
  | .float (.inf a), .float (.inf b) => a == b
  | .str a, .str b => a == b
  | .time a, .time b => a.instant.nanos == b.instant.nanos && a.offset == b.offset
  | _, _ => false

/-- The entries with `k` set to `v`: an entry with the same key is replaced. -/
def setKey (k v : Value) : List (Value × Value) → List (Value × Value)
  | [] => [(k, v)]
  | (k', v') :: rest => if sameKey k k' then (k, v) :: rest else (k', v') :: setKey k v rest

/-- A float as printed in the general notation: `+Inf`, `-Inf` and `NaN` for the values
that are not finite. -/
def floatText : Real64 → String
  | .finite neg m => (if neg then "-" else "") ++ FloatText.generalMagnitude m
  | .inf neg => if neg then "-Inf" else "+Inf"
  | .nan => "NaN"

/-- A time as printed: date, clock with its fraction, numeric offset and zone name. -/
def timeText (t : Stamp) : String :=
  let w := t.instant.wall t.offset
  let a := t.offset.natAbs / 60
  let numeric := (if t.offset < 0 then "-" else "+") ++ TimeText.pad 2 (a / 60) ++
    TimeText.pad 2 (a % 60)
  TimeText.year w.year ++ "-" ++ TimeText.pad 2 w.month ++ "-" ++ TimeText.pad 2 w.day ++ " " ++
    TimeText.pad 2 w.hour ++ ":" ++ TimeText.pad 2 w.minute ++ ":" ++ TimeText.pad 2 w.second ++
    TimeText.fraction w.nano ++ " " ++ numeric ++ " " ++ (if t.offset == 0 then "UTC" else numeric)

def keyText : Value → String
  | .null => "<nil>"
  | .bool b => if b then "true" else "false"
  | .int n => toString n
  | .float x => floatText x
  | .str s => s
  | .time t => timeText t
  | .seq _ => "[]"
  | .map _ _ => "map[]"

/-- Entries with one entry for each key, holding the last value given for it; the entries
come in the order of the text of their keys. -/
def distinct (es : Array (Value × Value)) : List (Value × Value) :=
  let sorted := es.toList.mergeSort fun a b => decide (a.1.keyText ≤ b.1.keyText)
  let step (acc : Array (Value × Value) × List (Value × Value) × String) (e : Value × Value) :=
    let (done, group, text) := acc
    let t := e.1.keyText
    if t == text && !group.isEmpty then (done, setKey e.1 e.2 group, text)
    else (done ++ group.toArray, [e], t)
  let (done, group, _) := sorted.foldl step (#[], [], "")
  (done ++ group.toArray).toList

def monthNames : List String :=
  ["January", "February", "March", "April", "May", "June", "July", "August", "September",
   "October", "November", "December"]

/-- A time as a literal: the call that makes it, with its wall clock and its zone (UTC, or
a zone without a name for any other offset). -/
def timeLiteral (t : Stamp) : String :=
  let w := t.instant.wall t.offset
  "time.Date(" ++ toString w.year ++ ", time." ++ monthNames.getD (w.month - 1) "" ++ ", " ++
    toString w.day ++ ", " ++ toString w.hour ++ ", " ++ toString w.minute ++ ", " ++
    toString w.second ++ ", " ++ toString w.nano ++ ", " ++
    (if t.offset == 0 then "time.UTC" else "time.Location(\"\")") ++ ")"

/-- Where a key stands among the keys of a literal mapping: null first, then booleans,
integers, floats, strings and times. -/
def kindRank : Value → Nat
  | .null => 0
  | .bool _ => 1
  | .int _ => 2
  | .float _ => 3
  | .str _ => 4
  | .time _ => 5
  | .seq _ => 6
  | .map _ _ => 7

/-- A float as a fraction with its sign, to order keys by; NaN and the infinities at the
ends. -/
def floatOrder : Real64 → Int × Nat
  | .finite neg m =>
    let (num, den) := m.toRatio
    ((if neg then -(num : Int) else num), den)
  | .inf neg => (if neg then -1 else 1, 0)
  | .nan => (-1, 0)

def keyBefore (a b : Value) : Bool :=
  if kindRank a != kindRank b then kindRank a < kindRank b
  else match a, b with
    | .bool x, .bool y => !x && y
    | .int x, .int y => x < y
    | .float x, .float y =>
      let (n, d) := floatOrder x
      let (n', d') := floatOrder y
      if d == 0 || d' == 0 then
        (if d == 0 then (if n < 0 then 0 else 2) else 1) < (if d' == 0 then (if n' < 0 then 0 else 2) else 1)
      else n * d' < n' * d
    | .str x, .str y => x < y
    | .time x, .time y => x.instant.nanos < y.instant.nanos
    | _, _ => false

mutual

/-- A value as a literal of its type, as error messages write it. -/
def literal : Value → String
  | .null => "interface \x7b\x7d(nil)"
  | .bool b => if b then "true" else "false"
  | .int n => if n ≥ 9223372036854775808 then "0x" ++ String.ofList (Nat.toDigits 16 n.toNat) else toString n
  | .float x => floatText x
  | .str s => Quote.text s
  | .time t => timeLiteral t
  | .seq items => "[]interface \x7b\x7d\x7b" ++ ", ".intercalate (literalItems items) ++ "\x7d"
  | .map entries stringKeyed =>
    (if stringKeyed then "map[string]interface \x7b\x7d\x7b" else "map[interface \x7b\x7d]interface \x7b\x7d\x7b") ++
      ", ".intercalate ((literalEntries entries).mergeSort (fun a b => !keyBefore b.1 a.1)).unzip.2 ++ "\x7d"

def literalItems : List Value → List String
  | [] => []
  | v :: rest => literal v :: literalItems rest

/-- The entries of a mapping with their keys, each as a literal `key:value`. -/
def literalEntries : List (Value × Value) → List (Value × String)
  | [] => []
  | (k, v) :: rest => (k, literal k ++ ":" ++ literal v) :: literalEntries rest

end

end Value

/-! ## Scalars -/

def resolvableTags : List String :=
  ["", "!!str", "!!bool", "!!int", "!!float", "!!null", "!!timestamp"]

/-- What the first character of a plain scalar says it may be: `N` nothing (empty), `S` a
signed number, `D` a number, `M` a word such as `true` or `null`, `.` a float; `?` none of
these, so a string. -/
def hint (s : String) : Char :=
  match s.toList with
  | [] => 'N'
  | c :: _ =>
    if c == '+' || c == '-' then 'S'
    else if c.isDigit then 'D'
    else if "yYnNtTfFoO~".contains c then 'M'
    else if c == '.' then '.'
    else '?'

def known? (s : String) : Option (String × Value) :=
  if ["true", "True", "TRUE"].contains s then some ("!!bool", .bool true)
  else if ["false", "False", "FALSE"].contains s then some ("!!bool", .bool false)
  else if ["", "~", "null", "Null", "NULL"].contains s then some ("!!null", .null)
  else if [".nan", ".NaN", ".NAN"].contains s then some ("!!float", .float .nan)
  else if [".inf", ".Inf", ".INF", "+.inf", "+.Inf", "+.INF"].contains s then
    some ("!!float", .float (.inf false))
  else if ["-.inf", "-.Inf", "-.INF"].contains s then some ("!!float", .float (.inf true))
  else none

/-- The layouts a time may be written in: date and clock with `T` (or `t`) and an offset or
`Z`, date and clock with a space, or a date alone. Months, days and clock fields may have
one digit. -/
def timeLayouts : List Layout :=
  let date : List LayoutElem := [.year, .text "-", .month false, .text "-", .day false]
  let clock : List LayoutElem :=
    [.hour, .text ":", .minute false, .text ":", .second false, .fraction]
  [⟨date ++ [.text "T"] ++ clock ++ [.offsetColon true]⟩,
    ⟨date ++ [.text "t"] ++ clock ++ [.offsetColon true]⟩,
    ⟨date ++ [.text " "] ++ clock⟩,
    ⟨date⟩]

/-- A time, when the text starts with a four-digit year and a dash and fits a layout. -/
def timestamp? (s : String) : Option Stamp :=
  let cs := s.toList
  if (cs.takeWhile Char.isDigit).length != 4 || (cs.drop 4).head? != some '-' then none
  else timeLayouts.findSome? fun l =>
    match l.read s with
    | .ok t => some t
    | .error _ => none

/-- Whether a text has the shape of a decimal float: sign, digits with an optional point
(or a point and digits), and an optional exponent. -/
def floatShaped (cs : List Char) : Bool :=
  let cs := match cs with
    | '+' :: r => r
    | '-' :: r => r
    | r => r
  let exponentOk (r : List Char) : Bool :=
    match r with
    | [] => true
    | e :: r =>
      if e != 'e' && e != 'E' then false
      else
        let r := match r with
          | '+' :: r' => r'
          | '-' :: r' => r'
          | r' => r'
        !r.isEmpty && r.all Char.isDigit
  match cs with
  | '.' :: r =>
    let ds := r.takeWhile Char.isDigit
    !ds.isEmpty && exponentOk (r.dropWhile Char.isDigit)
  | _ =>
    let ds := cs.takeWhile Char.isDigit
    let rest := cs.dropWhile Char.isDigit
    !ds.isEmpty &&
      match rest with
      | '.' :: r => exponentOk (r.dropWhile Char.isDigit)
      | r => exponentOk r

def float? (s : String) : Option Real64 :=
  match FloatText.read s with
  | .value x => some x
  | _ => none

/-- What a scalar's text reads as under a tag, with the tag it was found to have. -/
def readScalar (tag text : String) : String × Value :=
  if !resolvableTags.contains tag then (tag, .str text)
  else
    let h := hint text
    if h == '?' || tag == "!!str" then ("!!str", .str text)
    else
      match known? text with
      | some r => r
      | none =>
        if h == '.' then
          match float? text with
          | some x => ("!!float", .float x)
          | none => ("!!str", .str text)
        else if h == 'D' || h == 'S' then
          let stamp := if tag == "" || tag == "!!timestamp" then timestamp? text else none
          match stamp with
          | some t => ("!!timestamp", .time t)
          | none =>
            let plain := String.ofList (text.toList.filter (· != '_'))
            match IntText.readInt plain 0 64 with
            | .value n => ("!!int", .int n)
            | _ =>
              match IntText.readNat plain 0 64 with
              | .value n => ("!!int", .int n)
              | _ =>
                match (if floatShaped plain.toList then float? plain else none) with
                | some x => ("!!float", .float x)
                | none => ("!!str", .str text)
        else ("!!str", .str text)

def intAsFloat (n : Int) : Real64 :=
  match Binary64.ofNat n.natAbs with
  | some m => .finite (n < 0) m
  | none => .inf (n < 0)

/-- Resolves a scalar under an explicit tag (empty for none): the tag it has and its value;
an explicit tag the text does not fit is an error. -/
def resolve (tag text : String) : Except YamlError (String × Value) :=
  let (rtag, v) := readScalar tag text
  if tag == "" || tag == rtag || tag == "!!str" || tag == "!!binary" then .ok (rtag, v)
  else if tag == "!!float" && rtag == "!!int" then
    match v with
    | .int n => .ok ("!!float", .float (intAsFloat n))
    | _ => .ok (rtag, v)
  else .error (.other ("cannot decode " ++ rtag ++ " `" ++ text ++ "` as a " ++ tag))

/-! ## JSON -/

/-- Entries keyed by their text, in the order of their keys; of keys with the same text the
last is kept. -/
def keyedByText {α : Type} (es : List (String × α)) : List (String × α) :=
  let sorted := es.mergeSort fun a b => decide (a.1 ≤ b.1)
  let step (acc : Array (String × α)) (e : String × α) : Array (String × α) :=
    match acc.back? with
    | some (k, _) => if k == e.1 then acc.pop.push e else acc.push e
    | none => acc.push e
  (sorted.foldl step #[]).toList

/-- A time as JSON: RFC 3339, which cannot hold an offset of a whole day or more. -/
def timeJson (t : Stamp) : Except String Json :=
  if t.offset != 0 && t.offset.natAbs / 3600 ≥ 24 then
    .error ("json: error calling MarshalJSON for type time.Time: " ++
      "Time.MarshalJSON: timezone hour outside of range [0,23]")
  else .ok (.str (t.instant.rfc3339At t.offset))

mutual

/-- The value as JSON; a float that is infinite or NaN cannot be written. The members of a
mapping are written in the order of their keys, and the first value that cannot be
written in that order is the one reported. -/
def Value.toJson : Value → Except String Json
  | .null => .ok .null
  | .bool b => .ok (.bool b)
  | .int n => .ok (Json.int n)
  | .float (.finite neg m) => .ok (.num ((if neg then "-" else "") ++ FloatText.jsonMagnitude m))
  | .float x => .error ("json: unsupported value: " ++ Value.floatText x)
  | .str s => .ok (.str s)
  | .time t => timeJson t
  | .seq items => do return .arr (← Value.itemsJson items)
  | .map entries _ => do
    let members ← (keyedByText (Value.entriesJson entries)).mapM fun (k, r) => do
      return (k, ← r)
    return .obj members

def Value.itemsJson : List Value → Except String (List Json)
  | [] => .ok []
  | v :: rest => do return (← v.toJson) :: (← Value.itemsJson rest)

/-- The entries of a mapping with their keys as text and their values as JSON. -/
def Value.entriesJson : List (Value × Value) → List (String × Except String Json)
  | [] => []
  | (k, v) :: rest => (k.keyText, v.toJson) :: Value.entriesJson rest

end

end Foreman.Yaml
