import ProbeReport.Json.Basic
import ProbeReport.Json.Numeral

namespace ProbeReport.Json

-- An object whose first key is this one stands for the number that its value spells.
def numberKey : String := "$serde_json::private::Number"

-- At most this many arrays and objects may be open at once.
def maxOpen : Nat := 127

-- The container around the value being read, with what precedes that value in it:
-- the earlier items in reverse, or the earlier members and the key.
inductive Frame where
  | item (before : List Json)
  | member (before : List (String × Json)) (key : String)

-- What a string will be once it is closed.
inductive Role where
  | value
  | firstKey
  | key (before : List (String × Json))
  | numberText

-- The state inside a string. A hexadecimal escape collects its characters in reverse and
-- knows the high surrogate that it has to complete.
inductive Part where
  | plain
  | escape
  | hex (high : Option Nat) (seen : List Char)
  | surrogate (high : Nat) (slash : Bool)

-- What may come next.
inductive Mode where
  | value
  | itemOrEnd
  | nextItem (items : List Json)
  | afterItem (items : List Json)
  | keyOrEnd
  | nextKey (members : List (String × Json))
  | colon (members : List (String × Json)) (key : String)
  | afterMember (members : List (String × Json))
  | finished (value : Json)
  | word (letters : List Char) (value : Json)
  | numeral (number : Numeral)
  | text (role : Role) (part : Part) (chars : List Char)
  | numberColon
  | numberValue
  | numberWord (letters : List Char) (found : Found)
  | numberNumeral (number : Numeral)
  | numberEnd (spelling : String)

-- A reader in the middle of a document: what may come next, and the containers around it.
structure Reader where
  mode : Mode
  frames : List Frame

-- A reader that stopped, with the number of bytes of the current character that it has
-- gone past.
structure Halt where
  cause : Cause
  seen : Nat

-- How many bytes the document spends on these characters.
def byteCount : List Char → Nat
  | [] => 0
  | c :: rest => c.utf8Size + byteCount rest

namespace Reader

abbrev Step := Except Halt Reader

def start : Reader := ⟨.value, []⟩

def stop (cause : Cause) (seen : Nat) : Step := .error ⟨cause, seen⟩

def go (mode : Mode) (frames : List Frame) : Step := .ok ⟨mode, frames⟩

-- Puts a complete value where it belongs.
def deliver (value : Json) : List Frame → Reader
  | [] => ⟨.finished value, []⟩
  | .item before :: outer => ⟨.afterItem (value :: before), outer⟩
  | .member before key :: outer => ⟨.afterMember (put before key value), outer⟩

def afterItem (items : List Json) (frames : List Frame) (c : Char) : Step :=
  if isBlank c then go (.afterItem items) frames
  else if c = ',' then go (.nextItem items) frames
  else if c = ']' then .ok (deliver (.array items.reverse) frames)
  else stop .expectedListEnd 1

def afterMember (members : List (String × Json)) (frames : List Frame) (c : Char) :
    Step :=
  if isBlank c then go (.afterMember members) frames
  else if c = ',' then go (.nextKey members) frames
  else if c = '\x7d' then .ok (deliver (.object members) frames)
  else stop .expectedObjectEnd 1

def finished (value : Json) (c : Char) : Step :=
  if isBlank c then go (.finished value) [] else stop .trailingCharacters 1

-- A number ends at the first character that cannot belong to it; that character is then
-- read behind the number.
def settle (value : Json) (frames : List Frame) (c : Char) : Step :=
  match frames with
  | [] => finished value c
  | .item before :: outer => afterItem (value :: before) outer c
  | .member before key :: outer => afterMember (put before key value) outer c

def openContainer (mode : Mode) (frames : List Frame) : Step :=
  if frames.length < maxOpen then go mode frames else stop .recursionLimit 1

-- The first character of a value.
def beginValue (frames : List Frame) (c : Char) : Step :=
  if isBlank c then go .value frames
  else if c = 'n' then go (.word ['u', 'l', 'l'] .null) frames
  else if c = 't' then go (.word ['r', 'u', 'e'] (.bool true)) frames
  else if c = 'f' then go (.word ['a', 'l', 's', 'e'] (.bool false)) frames
  else if c = '"' then go (.text .value .plain []) frames
  else if c = '[' then openContainer .itemOrEnd frames
  else if c = '\x7b' then openContainer .keyOrEnd frames
  else
    match Numeral.empty.step c with
    | .more begun => go (.numeral begun) frames
    | _ => stop .expectedValue 1

-- A closed string.
def closeText (role : Role) (chars : List Char) (frames : List Frame) : Step :=
  let text := String.ofList chars.reverse
  match role with
  | .value => .ok (deliver (.string text) frames)
  | .firstKey => if text = numberKey then go .numberColon frames else go (.colon [] text) frames
  | .key before => go (.colon before text) frames
  | .numberText =>
    match Numeral.ofText text with
    | .ok spelling => go (.numberEnd spelling) frames
    | .error cause => stop cause 1

def escaped? (c : Char) : Option Char :=
  if c = '"' || c = '\\' || c = '/' then some c
  else if c = 'b' then some '\x08'
  else if c = 'f' then some '\x0c'
  else if c = 'n' then some '\n'
  else if c = 'r' then some '\r'
  else if c = 't' then some '\t'
  else none

def isHigh (unit : Nat) : Bool := 0xd800 ≤ unit && unit ≤ 0xdbff

def isLow (unit : Nat) : Bool := 0xdc00 ≤ unit && unit ≤ 0xdfff

-- Four hexadecimal digits have been read.
def closeHex (role : Role) (high : Option Nat) (unit : Nat) (chars : List Char)
    (frames : List Frame) : Step :=
  match high with
  | none =>
    if isLow unit then stop .loneSurrogate 1
    else if isHigh unit then go (.text role (.surrogate unit false) chars) frames
    else go (.text role .plain (Char.ofNat unit :: chars)) frames
  | some high =>
    if isLow unit then
      let code := 0x10000 + (high - 0xd800) * 0x400 + (unit - 0xdc00)
      go (.text role .plain (Char.ofNat code :: chars)) frames
    else stop .loneSurrogate 1

-- A hexadecimal escape spans four bytes of the document. They are judged together, so
-- fewer than four of them are a truncated string and never a wrong escape.
def hexStep (role : Role) (high : Option Nat) (seen : List Char) (chars : List Char)
    (frames : List Frame) (c : Char) : Step :=
  let bytes := byteCount seen
  if bytes + c.utf8Size < 4 then go (.text role (.hex high (c :: seen)) chars) frames
  else
    match (c :: seen).reverse.mapM Text.hexValue? with
    | some digits => closeHex role high (digits.foldl (fun n d => n * 16 + d) 0) chars frames
    | none => stop .invalidEscape (4 - bytes)

def textStep (role : Role) (part : Part) (chars : List Char) (frames : List Frame)
    (c : Char) : Step :=
  match part with
  | .plain =>
    if c = '"' then closeText role chars frames
    else if c = '\\' then go (.text role .escape chars) frames
    else if c.toNat < 0x20 then stop .controlCharacter 1
    else go (.text role .plain (c :: chars)) frames
  | .escape =>
    if c = 'u' then go (.text role (.hex none []) chars) frames
    else
      match escaped? c with
      | some plain => go (.text role .plain (plain :: chars)) frames
      | none => stop .invalidEscape 1
  | .hex high seen => hexStep role high seen chars frames c
  | .surrogate high false =>
    if c = '\\' then go (.text role (.surrogate high true) chars) frames
    else stop .unfinishedSurrogate 1
  | .surrogate high true =>
    if c = 'u' then go (.text role (.hex (some high) []) chars) frames
    else stop .unfinishedSurrogate 1

def wordStep (letters : List Char) (value : Json) (frames : List Frame) (c : Char) :
    Step :=
  match letters with
  | [] => stop .expectedWord 1
  | [last] => if c = last then .ok (deliver value frames) else stop .expectedWord 1
  | next :: more => if c = next then go (.word more value) frames else stop .expectedWord 1

def keyStep (role : Role) (cause : Cause) (frames : List Frame) (c : Char) : Step :=
  if c = '"' then go (.text role .plain []) frames else stop cause 1

-- The value of a number object. Anything but a string is refused, once it is known what
-- it is.
def beginNumberValue (frames : List Frame) (c : Char) : Step :=
  if isBlank c then go .numberValue frames
  else if c = 'n' then go (.numberWord ['u', 'l', 'l'] .null) frames
  else if c = 't' then go (.numberWord ['r', 'u', 'e'] (.bool true)) frames
  else if c = 'f' then go (.numberWord ['a', 'l', 's', 'e'] (.bool false)) frames
  else if c = '"' then go (.text .numberText .plain []) frames
  else if c = '[' then stop (.notNumberText .array) 0
  else if c = '\x7b' then stop (.notNumberText .object) 0
  else
    match Numeral.empty.step c with
    | .more begun => go (.numberNumeral begun) frames
    | _ => stop .expectedValue 1

def numberWordStep (letters : List Char) (found : Found) (frames : List Frame)
    (c : Char) : Step :=
  match letters with
  | [] => stop .expectedWord 1
  | [last] => stop (if c = last then .notNumberText found else .expectedWord) 1
  | next :: more =>
    if c = next then go (.numberWord more found) frames else stop .expectedWord 1

-- Reads one character.
def step (r : Reader) (c : Char) : Step :=
  match r.mode with
  | .value => beginValue r.frames c
  | .itemOrEnd =>
    if isBlank c then .ok r
    else if c = ']' then .ok (deliver (.array []) r.frames)
    else beginValue (.item [] :: r.frames) c
  | .nextItem items =>
    if isBlank c then .ok r
    else if c = ']' then stop .trailingComma 1
    else beginValue (.item items :: r.frames) c
  | .afterItem items => afterItem items r.frames c
  | .keyOrEnd =>
    if isBlank c then .ok r
    else if c = '\x7d' then .ok (deliver (.object []) r.frames)
    else keyStep .firstKey .keyNotString r.frames c
  | .nextKey members =>
    if isBlank c then .ok r
    else keyStep (.key members) (if c = '\x7d' then .trailingComma else .keyNotString) r.frames c
  | .colon members key =>
    if isBlank c then .ok r
    else if c = ':' then go .value (.member members key :: r.frames)
    else stop .expectedColon 1
  | .afterMember members => afterMember members r.frames c
  | .finished value => finished value c
  | .word letters value => wordStep letters value r.frames c
  | .numeral begun =>
    match begun.step c with
    | .more next => go (.numeral next) r.frames
    | .done => settle (.number begun.text) r.frames c
    | .invalid => stop .invalidNumber 1
  | .text role part chars => textStep role part chars r.frames c
  | .numberColon =>
    if isBlank c then .ok r
    else if c = ':' then go .numberValue r.frames
    else stop .expectedColon 1
  | .numberValue => beginNumberValue r.frames c
  | .numberWord letters found => numberWordStep letters found r.frames c
  | .numberNumeral begun =>
    match begun.step c with
    | .more next => go (.numberNumeral next) r.frames
    | .done => stop (.notNumberText begun.found) 0
    | .invalid => stop .invalidNumber 1
  | .numberEnd spelling =>
    if isBlank c then .ok r
    else if c = '\x7d' then .ok (deliver (.number spelling) r.frames)
    else stop (if c = ',' then .trailingComma else .trailingCharacters) 1

-- The end of the document right behind a number.
def endAfter (value : Json) : List Frame → Except Cause Json
  | [] => .ok value
  | .item _ :: _ => .error .endInList
  | .member _ _ :: _ => .error .endInObject

-- The end of the document.
def finish (r : Reader) : Except Cause Json :=
  match r.mode with
  | .finished value => .ok value
  | .numeral begun =>
    if begun.phase.isComplete then endAfter (.number begun.text) r.frames
    else .error .endInValue
  | .numberNumeral begun =>
    .error (if begun.phase.isComplete then .notNumberText begun.found else .endInValue)
  | .value | .nextItem _ | .nextKey _ | .word _ _ | .numberValue | .numberWord _ _ =>
    .error .endInValue
  | .itemOrEnd | .afterItem _ => .error .endInList
  | .keyOrEnd | .colon _ _ | .afterMember _ | .numberColon | .numberEnd _ =>
    .error .endInObject
  | .text _ _ _ => .error .endInString

-- Reads the rest of a document from a byte offset; a fault comes with the offset that it
-- is reported for.
def run (r : Reader) (offset : Nat) : List Char → Except (Cause × Nat) Json
  | [] => r.finish.mapError fun cause => (cause, offset)
  | c :: rest =>
    match r.step c with
    | .ok next => run next (offset + c.utf8Size) rest
    | .error halt => .error (halt.cause, offset + halt.seen)

end Reader

-- The place that a fault names: where reading stopped, or, for the text of a number
-- object, the place inside that text.
def placeOf (text : String) (cause : Cause) (offset : Nat) : Position :=
  match cause with
  | .badNumberText _ place => place
  | _ => Position.after (text.toUTF8.toList.take offset)

-- Reads a JSON document.
def parse (text : String) : Except Fault Json :=
  (Reader.start.run 0 text.toList).mapError fun (cause, offset) =>
    ⟨cause, placeOf text cause offset⟩

end ProbeReport.Json
