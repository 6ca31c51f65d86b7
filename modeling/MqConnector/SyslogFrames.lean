/-
This file models `SyslogForwarder.format`, which sends an audit row to a receiver as one line: in an
envelope, as JSON or in the Common Event Format.

A text of the row is any bytes. The value escaper of the Common Event Format has a code for it, the header
escaper has none, and both loop over the runes of the text, so that a byte that belongs to none is sent as
the replacement character.
-/

import MqConnector.Escaping
import MqConnector.Models
import MqConnector.Utf8

namespace MqConnector

open Escaping

/-! ### Rows and times -/

/-- `storage.AuditEntry`, with its moment in nanoseconds since 1970 in UTC. -/
structure ForwardedEntry where
  id : Bytes
  tenantID : Bytes
  instant : Int
  actor : Bytes
  actorSub : Bytes
  action : Bytes
  resource : Bytes
  status : Int
  requestID : Bytes
  remoteIP : Bytes
  hash : Bytes := []
  prevHash : Bytes := []

/-- A number in this many digits at least. -/
def padded (width number : Nat) : List Char :=
  List.replicate (width - (Nat.toDigits 10 number).length) '0' ++ Nat.toDigits 10 number

/-- Year, month and day of a day after 1970-01-01, counted from the first of March of the year 0. -/
def civilDate (days : Int) : Int × Nat × Nat :=
  let era := (days + 719468) / 146097
  let dayOfEra := ((days + 719468) % 146097).toNat
  let yearOfEra := (dayOfEra - dayOfEra / 1460 + dayOfEra / 36524 - dayOfEra / 146096) / 365
  let dayOfYear := dayOfEra - (365 * yearOfEra + yearOfEra / 4 - yearOfEra / 100)
  let month := (5 * dayOfYear + 2) / 153
  let year := era * 400 + yearOfEra
  (if month < 10 then year else year + 1, if month < 10 then month + 3 else month - 9,
    dayOfYear - (153 * month + 2) / 5 + 1)

/-- `Unix()`. -/
def unixSeconds (instant : Int) : Int :=
  instant / 1000000000

/-- A moment in UTC up to the seconds. -/
def dateTime (instant : Int) : List Char :=
  let date := civilDate (unixSeconds instant / 86400)
  let second := (unixSeconds instant % 86400).toNat
  (if date.1 < 0 then ['-'] else []) ++ padded 4 date.1.natAbs ++ ['-'] ++ padded 2 date.2.1 ++ ['-'] ++
    padded 2 date.2.2 ++ ['T'] ++ padded 2 (second / 3600) ++ [':'] ++ padded 2 (second / 60 % 60) ++ [':'] ++
    padded 2 (second % 60)

/-- `Time.Format` with `time.RFC3339`. -/
def formatRFC3339 (instant : Int) : List Char :=
  dateTime instant ++ ['Z']

/-- The fraction of a second, without the zeros at its end. -/
def fraction (nanoseconds : Nat) : List Char :=
  if nanoseconds = 0 then [] else '.' :: ((padded 9 nanoseconds).reverse.dropWhile (· = '0')).reverse

/-- `Time.MarshalJSON`. A year of more than four digits is an error. -/
def timeJSON (instant : Int) : Option (List Char) :=
  let year := (civilDate (unixSeconds instant / 86400)).1
  if 0 ≤ year ∧ year ≤ 9999 then
    some (['"'] ++ dateTime instant ++ fraction (instant % 1000000000).toNat ++ ['Z', '"'])
  else none

example : formatRFC3339 1700000000000000000 = "2023-11-14T22:13:20Z".toList := by decide

/-! ### JSON -/

/-- A rune in a string of `json.Marshal`. -/
def jsonRune : Option Char → List Char
  | none => "\\ufffd".toList
  | some '"' => ['\\', '"']
  | some '\\' => ['\\', '\\']
  | some '\x08' => ['\\', 'b']
  | some '\x0c' => ['\\', 'f']
  | some '\n' => ['\\', 'n']
  | some '\r' => ['\\', 'r']
  | some '\t' => ['\\', 't']
  | some char =>
    if char.toNat < 32 ∨ char = '<' ∨ char = '>' ∨ char = '&' then
      "\\u00".toList ++ [Nat.digitChar (char.toNat / 16), Nat.digitChar (char.toNat % 16)]
    else if char = '\u2028' ∨ char = '\u2029' then "\\u202".toList ++ [Nat.digitChar (char.toNat % 16)]
    else [char]

/-- A text as `encoding/json` quotes it. -/
def jsonString (text : Bytes) : List Char :=
  ['"'] ++ (Utf8.runes text).flatMap jsonRune ++ ['"']

/-- A field of an object after the first. -/
def jsonField (name : String) (value : List Char) : List Char :=
  [',', '"'] ++ name.toList ++ ['"', ':'] ++ value

/-- `json.Marshal` of a row. -/
def marshalEntry (entry : ForwardedEntry) : Option (List Char) :=
  (timeJSON entry.instant).map fun time =>
    "\x7b\"id\":".toList ++ jsonString entry.id ++ jsonField "tenant_id" (jsonString entry.tenantID) ++
      jsonField "at" time ++ jsonField "actor" (jsonString entry.actor) ++
      jsonField "actor_sub" (jsonString entry.actorSub) ++ jsonField "action" (jsonString entry.action) ++
      jsonField "resource" (jsonString entry.resource) ++ jsonField "status" (toString entry.status).toList ++
      jsonField "request_id" (jsonString entry.requestID) ++ jsonField "remote_ip" (jsonString entry.remoteIP) ++
      (if entry.hash = [] then [] else jsonField "hash" (jsonString entry.hash)) ++
      (if entry.prevHash = [] then [] else jsonField "prev_hash" (jsonString entry.prevHash)) ++ ['\x7d']

/-! ### The Common Event Format -/

/-- The characters that `escapeCEFHeader` escapes. -/
def headerEscaper : Escaper Char where
  mark := '\\'
  code char := if char = '\\' ∨ char = '|' then some char else none
  read char := char
  code_mark := by decide
  read_code char written coded := by
    split at coded
    · exact (Option.some.inj coded).symm
    · cases coded

/-- The characters that `escapeCEFValue` escapes. -/
def valueEscaper : Escaper Char where
  mark := '\\'
  code
    | '\\' => some '\\'
    | '=' => some '='
    | '\n' => some 'n'
    | '\r' => some 'r'
    | _ => none
  read
    | 'n' => '\n'
    | 'r' => '\r'
    | char => char
  code_mark := by decide
  read_code char written coded := by
    split at coded
    case h_5 => cases coded
    all_goals
      obtain rfl := Option.some.inj coded
      rfl

/-- The escapes of a header field. -/
def escapeCEFHeader (text : Bytes) : Bytes :=
  Utf8.encode (headerEscaper.escape (Utf8.text text))

/-- The escapes of an extension's value. -/
def escapeCEFValue (text : Bytes) : Bytes :=
  Utf8.encode (valueEscaper.escape (Utf8.text text))

def utf8 (text : String) : Bytes :=
  Utf8.encode text.toList

namespace ForwardedEntry

variable (entry : ForwardedEntry)

/-- The severity of a status. -/
def severity : Nat :=
  if 500 ≤ entry.status then 7 else if 400 ≤ entry.status then 5 else 3

/-- Whether the request succeeded. -/
def outcome : Bytes :=
  if 400 ≤ entry.status then utf8 "failure" else utf8 "success"

/-- The extension's pairs in their order. -/
def extension : List (String × Bytes) :=
  [("act", entry.action), ("suser", entry.actor), ("suid", entry.actorSub), ("src", entry.remoteIP),
    ("request", entry.resource), ("requestMethod", entry.action), ("externalId", entry.id),
    ("cs1Label", utf8 "request_id"), ("cs1", entry.requestID), ("cs2Label", utf8 "tenant_id"),
    ("cs2", entry.tenantID), ("cs3Label", utf8 "status"), ("cs3", utf8 (toString entry.status)),
    ("outcome", entry.outcome)]

/-- The name of an event. -/
def name : Bytes :=
  if entry.resource = [] then utf8 "audit" else entry.resource

end ForwardedEntry

/-- One round of the loop over the extension. -/
def appendExtension (extBuf : Bytes) (pair : String × Bytes) : Bytes :=
  if pair.2 = [] then extBuf
  else (if extBuf = [] then extBuf else extBuf ++ utf8 " ") ++ utf8 pair.1 ++ utf8 "=" ++ escapeCEFValue pair.2

/-- An entry in the format CEF. -/
def formatCEF (entry : ForwardedEntry) (version : Bytes) : Bytes :=
  let version := if version = [] then utf8 "dev" else version
  utf8 "CEF:0|" ++ escapeCEFHeader (utf8 "mqconnector") ++ utf8 "|" ++ escapeCEFHeader (utf8 "mqconnector") ++
    utf8 "|" ++ escapeCEFHeader version ++ utf8 "|" ++ escapeCEFHeader entry.action ++ utf8 "|" ++
    escapeCEFHeader entry.name ++ utf8 "|" ++ utf8 (toString entry.severity) ++ utf8 "|" ++
    entry.extension.foldl appendExtension []

/-! ### The forwarder -/

/-- `audit.Format`. -/
inductive SyslogFormat
  | rfc5424
  | cef
  deriving DecidableEq

/-- What `format` uses of a `SyslogForwarder`. -/
structure SyslogForwarder where
  hostname : Bytes
  app : Bytes
  outputFormat : SyslogFormat := .rfc5424
  version : Bytes := []

/-- `NewSyslogForwarder`, for an address that can be parsed. -/
def newSyslogForwarder (hostname app : Bytes) : SyslogForwarder where
  hostname := if hostname = [] then utf8 "mqconnector" else hostname
  app := if app = [] then utf8 "mqconnector" else app

namespace SyslogForwarder

variable (forwarder : SyslogForwarder)

/-- The message of a frame. A row that cannot be marshalled gives none. -/
def body (entry : ForwardedEntry) : Bytes :=
  match forwarder.outputFormat with
  | .cef => formatCEF entry forwarder.version
  | .rfc5424 => Utf8.encode ((marshalEntry entry).getD [])

/-- A frame: the header of RFC 5424, the body and a line feed. -/
def format (entry : ForwardedEntry) : Bytes :=
  utf8 "<133>1 " ++ Utf8.encode (formatRFC3339 entry.instant) ++ utf8 " " ++ forwarder.hostname ++ utf8 " " ++
    forwarder.app ++ utf8 " - " ++ utf8 "audit" ++ utf8 " - " ++ forwarder.body entry ++ utf8 "\n"

end SyslogForwarder

/-! ### Reading a message -/

/-- What a receiver reads of a message in the Common Event Format. -/
structure CefMessage where
  action : Bytes
  name : Bytes
  extension : List (List Char × Bytes)
  deriving DecidableEq

/-- The values of an extension that is cut at its equals signs: the next key stands after the last space. -/
def readValues : List Char → List (List Char) → List (List Char × Bytes)
  | _, [] => []
  | key, [value] => [(key, Utf8.encode value)]
  | key, part :: next :: rest =>
    (key, Utf8.encode (cutLast ' ' part).1) :: readValues (cutLast ' ' part).2 (next :: rest)

/-- An extension is cut at the equals signs outside of escapes, which are undone then. -/
def readExtension (text : List Char) : List (List Char × Bytes) :=
  match (valueEscaper.pieces '=' text.length text).map valueEscaper.unescape with
  | [] => []
  | key :: values => readValues key values

/-- A header is cut at the pipes outside of escapes, which are undone then. -/
def readCEF (message : Bytes) : Option CefMessage :=
  match headerEscaper.pieces '|' 7 (Utf8.text message) with
  | [_, _, _, _, action, name, _, extension] =>
    some { action := Utf8.encode (headerEscaper.unescape action)
           name := Utf8.encode (headerEscaper.unescape name)
           extension := readExtension extension }
  | _ => none

/-- The pairs that a row puts into the extension. -/
def ForwardedEntry.sentPairs (entry : ForwardedEntry) : List (String × Bytes) :=
  entry.extension.filter fun pair => pair.2 ≠ []

section Reading

/-- A key without spaces and without characters to escape. -/
def PlainKey (key : String) : Prop :=
  ' ' ∉ key.toList ∧ ∀ char ∈ key.toList, valueEscaper.code char = none

/-- The texts that stand between the equals signs, from a value on. -/
def values : Bytes → List (String × Bytes) → List (List Char)
  | value, [] => [Utf8.text value]
  | value, (key, next) :: rest => (Utf8.text value ++ ' ' :: key.toList) :: values next rest

theorem readValues_values (key : String) (value : Bytes) (pairs : List (String × Bytes))
    (plain : ∀ pair ∈ pairs, PlainKey pair.1) :
    readValues key.toList (values value pairs) =
      ((key, value) :: pairs).map fun pair => (pair.1.toList, Utf8.asText pair.2) := by
  induction pairs generalizing key value with
  | nil =>
    rw [values, readValues, Utf8.encode_text]
    rfl
  | cons pair rest hypothesis =>
    obtain ⟨following, next⟩ := pair
    obtain ⟨here, further⟩ := List.forall_mem_cons.mp plain
    have read := hypothesis following next further
    have some_values : ∃ first others, values next rest = first :: others := by
      cases rest with
      | nil => exact ⟨_, _, rfl⟩
      | cons pair rest => exact ⟨_, _, rfl⟩
    obtain ⟨first, others, shape⟩ := some_values
    rw [values, shape, readValues, ← shape, cutLast_append here.1, read, Utf8.encode_text]
    rfl

/-- A pair as the extension writes it. -/
def writtenPair (pair : String × Bytes) : List Char :=
  pair.1.toList ++ '=' :: valueEscaper.escape (Utf8.text pair.2)

/-- The pairs of an extension as they are written. -/
def written : List (String × Bytes) → List Char
  | [] => []
  | pair :: rest => writtenPair pair ++ rest.flatMap fun pair => ' ' :: writtenPair pair

theorem encode_writtenPair (pair : String × Bytes) :
    Utf8.encode (writtenPair pair) = utf8 pair.1 ++ utf8 "=" ++ escapeCEFValue pair.2 := by
  rw [writtenPair, Utf8.encode_append, ← List.singleton_append, Utf8.encode_append, ← List.append_assoc]
  rfl

theorem foldl_appendExtension (pairs : List (String × Bytes)) {buffer : Bytes} (nonempty : buffer ≠ []) :
    pairs.foldl appendExtension buffer = buffer ++ Utf8.encode ((pairs.filter fun pair => pair.2 ≠ []).flatMap
      fun pair => ' ' :: writtenPair pair) := by
  induction pairs generalizing buffer with
  | nil => exact (List.append_nil buffer).symm
  | cons pair pairs hypothesis =>
    rw [List.foldl_cons]
    by_cases empty : pair.2 = []
    · rw [appendExtension, if_pos empty, hypothesis nonempty, List.filter_cons_of_neg (by simp [empty])]
    · have longer : appendExtension buffer pair = buffer ++ Utf8.encode (' ' :: writtenPair pair) := by
        rw [appendExtension, if_neg empty, if_neg nonempty, ← List.singleton_append, Utf8.encode_append,
          encode_writtenPair]
        simp only [List.append_assoc]
        rfl
      rw [longer, hypothesis (by simp [nonempty]), List.filter_cons_of_pos (by simp [empty]),
        List.flatMap_cons, Utf8.encode_append, List.append_assoc]

theorem foldl_appendExtension_nil (pairs : List (String × Bytes)) :
    pairs.foldl appendExtension [] = Utf8.encode (written (pairs.filter fun pair => pair.2 ≠ [])) := by
  induction pairs with
  | nil => rfl
  | cons pair pairs hypothesis =>
    rw [List.foldl_cons]
    by_cases empty : pair.2 = []
    · rw [appendExtension, if_pos empty, hypothesis, List.filter_cons_of_neg (by simp [empty])]
    · have first : appendExtension [] pair = Utf8.encode (writtenPair pair) := by
        rw [appendExtension, if_neg empty, if_pos rfl, encode_writtenPair]
        rfl
      have nonempty : appendExtension [] pair ≠ [] := by
        rw [first, encode_writtenPair]
        simp [utf8, Utf8.encode]
      rw [foldl_appendExtension pairs nonempty, first, List.filter_cons_of_pos (by simp [empty]), written,
        Utf8.encode_append]

theorem escape_flatMap_eq (value : Bytes) (pairs : List (String × Bytes))
    (plain : ∀ pair ∈ pairs, PlainKey pair.1) :
    valueEscaper.escape (Utf8.text value) ++ (pairs.flatMap fun pair => ' ' :: writtenPair pair) =
      valueEscaper.between '=' (values value pairs) := by
  induction pairs generalizing value with
  | nil => exact List.append_nil _
  | cons pair rest hypothesis =>
    obtain ⟨key, next⟩ := pair
    obtain ⟨here, further⟩ := List.forall_mem_cons.mp plain
    have some_values : ∃ first others, values next rest = first :: others := by
      cases rest with
      | nil => exact ⟨_, _, rfl⟩
      | cons pair rest => exact ⟨_, _, rfl⟩
    obtain ⟨first, others, shape⟩ := some_values
    have spaced : valueEscaper.escape (' ' :: key.toList) = ' ' :: key.toList := by
      refine Escaper.escape_of_plain _ fun char member => ?_
      rcases List.mem_cons.mp member with rfl | among
      · rfl
      · exact here.2 char among
    rw [List.flatMap_cons, values, shape, Escaper.between, ← shape, ← hypothesis next further,
      Escaper.escape_append, spaced, writtenPair]
    simp only [List.cons_append, List.append_assoc]

theorem written_cons (key : String) (value : Bytes) (pairs : List (String × Bytes))
    (plain : ∀ pair ∈ (key, value) :: pairs, PlainKey pair.1) :
    written ((key, value) :: pairs) = valueEscaper.between '=' (key.toList :: values value pairs) := by
  obtain ⟨here, further⟩ := List.forall_mem_cons.mp plain
  have rest := escape_flatMap_eq value pairs further
  cases pairs with
  | nil =>
    rw [written, writtenPair, values, Escaper.between, Escaper.between, Escaper.escape_of_plain _ here.2,
      List.flatMap_nil, List.append_nil]
  | cons pair pairs =>
    rw [written, writtenPair, List.append_assoc, List.cons_append, rest, values, Escaper.between,
      Escaper.escape_of_plain _ here.2]

theorem readExtension_written {pairs : List (String × Bytes)} (plain : ∀ pair ∈ pairs, PlainKey pair.1)
    (nonempty : pairs ≠ []) :
    readExtension (written pairs) = pairs.map fun pair => (pair.1.toList, Utf8.asText pair.2) := by
  cases pairs with
  | nil => exact absurd rfl nonempty
  | cons pair pairs =>
    obtain ⟨key, value⟩ := pair
    obtain ⟨-, further⟩ := List.forall_mem_cons.mp plain
    have cuts : valueEscaper.pieces '=' (written ((key, value) :: pairs)).length (written ((key, value) :: pairs)) =
        (key.toList :: values value pairs).map valueEscaper.escape := by
      rw [written_cons key value pairs plain]
      exact Escaper.pieces_between (by decide) (by decide) (List.cons_ne_nil _ _) (Escaper.length_le_between '=' _)
    have undone : ((key.toList :: values value pairs).map valueEscaper.escape).map valueEscaper.unescape =
        key.toList :: values value pairs := by
      rw [List.map_map]
      exact (List.map_congr_left fun text _ => Escaper.unescape_escape text).trans (List.map_id _)
    rw [readExtension, cuts, undone]
    exact readValues_values key value pairs further

end Reading

end MqConnector
