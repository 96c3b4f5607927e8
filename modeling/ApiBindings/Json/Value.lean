import ApiBindings.Json.Outline

/-!
# Value trees

Any document as a tree. Objects keep the order of their keys; a key that is given again keeps its
place and takes the new value. `Value.ofOutline` reads a tree under the limit on nesting and
`Value.text` writes one without blanks.
-/

namespace ApiBindings.Json

/-- A tree of JSON data. -/
inductive Value where
  | null
  | boolean (b : Bool)
  | number (n : Number)
  | string (s : String)
  | array (items : List Value)
  | object (entries : List (String × Value))

/-- What a tree is, for a diagnostic. -/
def Value.found : Value → Found
  | null => .null
  | boolean b => .boolean b
  | number n => .number n
  | string s => .string s
  | array _ => .sequence
  | object _ => .map

/-- Puts a value under a key: in place of the value that is there, else at the end. -/
def putEntry {α : Type} (key : String) (value : α) : List (String × α) → List (String × α)
  | [] => [(key, value)]
  | (k, v) :: rest => if k = key then (k, value) :: rest else (k, v) :: putEntry key value rest

/-- The keys after a value is put: a new key goes to the end. -/
theorem keys_putEntry {α : Type} (key : String) (value : α) (entries : List (String × α)) :
    (putEntry key value entries).map Prod.fst =
      if key ∈ entries.map Prod.fst then entries.map Prod.fst
      else entries.map Prod.fst ++ [key] := by
  induction entries with
  | nil => simp [putEntry]
  | cons e rest ih =>
    obtain ⟨k, v⟩ := e
    by_cases hk : k = key
    · simp [putEntry, hk]
    · have hk' : key ≠ k := Ne.symm hk
      simp only [putEntry, hk, if_false, List.map_cons, ih, List.mem_cons, hk', false_or]
      split <;> simp

namespace ArrayEnd

/-- The fault of an array's end for a reader of its elements. -/
def fault? : ArrayEnd → Option Fault
  | closed => none
  | documentEnd => some .endInArray
  | unseparated => some .arrayUnseparated
  | documentEndAfterComma => some .endInValue
  | trailingComma => some .trailingComma

/-- The fault of an array's end for a reader that has all the elements it wants. -/
def surplusFault? : ArrayEnd → Option Fault
  | closed => none
  | documentEnd => some .endInArray
  | unseparated | documentEndAfterComma => some .trailingSymbols
  | trailingComma => some .trailingComma

/-- The fault of an array's end where its contents are passed over. -/
def skippedFault? : ArrayEnd → Option Fault
  | trailingComma => some .valueExpected
  | ending => ending.fault?

end ArrayEnd

/-- The fault of a key without a colon. -/
def colonFault (last : Bool) : Fault := if last then .endInObject else .colonExpected

namespace ObjectEnd

/-- The fault of an object's end for a reader of its entries. A key without a colon is read first;
reading it is the reader's own concern. -/
def fault? : ObjectEnd → Option Fault
  | closed => none
  | documentEnd => some .endInObject
  | unseparated => some .objectUnseparated
  | documentEndAfterComma => some .endInValue
  | trailingComma => some .trailingComma
  | keyNotString => some .keyNotString
  | bareKey _ last => some (colonFault last)

/-- The fault of an object's end where its contents are passed over. -/
def skippedFault? : ObjectEnd → Option Fault
  | closed => none
  | documentEnd | documentEndAfterComma => some .endInObject
  | unseparated => some .objectUnseparated
  | trailingComma | keyNotString => some .keyNotString
  | bareKey key last => some (key.spellingFault?.getD (colonFault last))

end ObjectEnd

/-- The number of a numeral. -/
def numberOf : Except NumeralFlaw Numeral → Except Fault Number
  | .ok n => match n.number? with
    | some number => .ok number
    | none => .error .numberTooGreat
  | .error .malformed => .error .numberMalformed
  | .error .cutShort => .error .endInValue

namespace Leaf

/-- The value of a leaf. -/
def value : Leaf → Except Fault Value
  | absent => .error .endInValue
  | null => .ok .null
  | boolean b => .ok (.boolean b)
  | number n => (numberOf n).map .number
  | string l => l.text.map .string
  | broken fault => .error fault

/-- What is wrong with the spelling of a leaf. Its value is not looked at. -/
def skippedFault? : Leaf → Option Fault
  | absent => some .endInValue
  | null | boolean _ | number (.ok _) => none
  | number (.error _) => some .numberMalformed
  | string l => l.spellingFault?
  | broken fault => some fault

end Leaf

namespace Outline

/-- What an outline holds, for a diagnostic. -/
def found : Outline → Except Fault Found
  | leaf l => l.value.map Value.found
  | array .. => .ok .sequence
  | object .. => .ok .map

/-- The fault of a value of the wrong type: that of its own spelling goes first. -/
def mismatch (wanted : String) (o : Outline) : Fault :=
  match o.found with
  | .ok found => .wrongType found wanted
  | .error fault => fault

mutual

/-- The first fault of a value that is passed over. Only its syntax counts: neither how deep it
nests nor what its numbers and strings stand for. -/
def skippedFault? : Outline → Option Fault
  | leaf l => l.skippedFault?
  | array items ending => (skippedItemFault? items).or ending.skippedFault?
  | object entries ending => (skippedEntryFault? entries).or ending.skippedFault?

/-- The first fault of elements that are passed over. -/
def skippedItemFault? : List Outline → Option Fault
  | [] => none
  | o :: rest => o.skippedFault?.or (skippedItemFault? rest)

/-- The first fault of entries that are passed over. -/
def skippedEntryFault? : List (Literal × Outline) → Option Fault
  | [] => none
  | (key, o) :: rest =>
    (key.spellingFault?.or o.skippedFault?).or (skippedEntryFault? rest)

end

end Outline

/-- Ends with a fault if there is one. -/
def finish {α : Type} (fault? : Option Fault) (a : α) : Except Fault α :=
  match fault? with
  | some fault => .error fault
  | none => .ok a

/-- Ends an object with the fault of its end, after reading a key that has no colon. -/
def finishObject {α : Type} (ending : ObjectEnd) (a : α) : Except Fault α :=
  match ending with
  | .bareKey key last => key.text.bind fun _ => .error (colonFault last)
  | ending => finish ending.fault? a

namespace Value

mutual

/-- Reads a tree in which at most `room` arrays and objects may be open at once. -/
def ofOutline (room : Nat) : Outline → Except Fault Value
  | .leaf l => l.value
  | .array items ending =>
    match room with
    | 0 => .error .nestedTooDeeply
    | room + 1 =>
      (ofItems room items).bind fun values => finish ending.fault? (.array values)
  | .object entries ending =>
    match room with
    | 0 => .error .nestedTooDeeply
    | room + 1 =>
      (ofEntries room [] entries).bind fun values => finishObject ending (.object values)

/-- Reads the elements of an array. -/
def ofItems (room : Nat) : List Outline → Except Fault (List Value)
  | [] => .ok []
  | o :: rest =>
    (ofOutline room o).bind fun v => (ofItems room rest).map (v :: ·)

/-- Reads the entries of an object after those read so far. -/
def ofEntries (room : Nat) (read : List (String × Value)) :
    List (Literal × Outline) → Except Fault (List (String × Value))
  | [] => .ok read
  | (key, o) :: rest =>
    key.text.bind fun key =>
      (ofOutline room o).bind fun v => ofEntries room (putEntry key v read) rest

end

/-- A character as a written string spells it. -/
def escapedChar : Char → List Char
  | '"' => ['\\', '"']
  | '\\' => ['\\', '\\']
  | '\x08' => ['\\', 'b']
  | '\x0c' => ['\\', 'f']
  | '\n' => ['\\', 'n']
  | '\r' => ['\\', 'r']
  | '\t' => ['\\', 't']
  | c =>
    if c.toNat < 0x20 then
      "\\u00".toList ++ [Nat.digitChar (c.toNat / 16), Nat.digitChar (c.toNat % 16)]
    else [c]

/-- The written form of a string. -/
def stringText (s : String) : String :=
  "\"" ++ String.ofList (s.toList.flatMap escapedChar) ++ "\""

mutual

/-- The written form of a tree, without blanks. -/
def text : Value → String
  | null => "null"
  | boolean b => if b then "true" else "false"
  | number n => n.text
  | string s => stringText s
  | array items => "[" ++ ",".intercalate (itemTexts items) ++ "]"
  | object entries => "\x7b" ++ ",".intercalate (entryTexts entries) ++ "\x7d"

/-- The written forms of an array's elements. -/
def itemTexts : List Value → List String
  | [] => []
  | v :: rest => v.text :: itemTexts rest

/-- The written forms of an object's entries. -/
def entryTexts : List (String × Value) → List String
  | [] => []
  | (key, v) :: rest => (stringText key ++ ":" ++ v.text) :: entryTexts rest

end

end Value

/-- The nesting of arrays and objects that a document may have. -/
def nestingLimit : Nat := 127

end ApiBindings.Json
