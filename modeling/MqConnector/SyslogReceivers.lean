/-
This file is about what a receiver of audit rows sees: where each row is one line, and where a message in
the Common Event Format can be read back.

A frame has a line feed too many exactly where the host name or the application has one, or, in the Common
Event Format, a field of the header: the version, the action or the path.
-/

import MqConnector.SyslogFrames
import MqConnector.Doubles

namespace MqConnector

open Escaping

/-! ### A message is read back -/

instance : DecidablePred PlainKey := fun _ =>
  @instDecidableAnd _ _ inferInstance (List.decidableBAll _ _)

namespace ForwardedEntry

variable (entry : ForwardedEntry)

theorem plainKey_extension {pair : String × Bytes} (among : pair ∈ entry.extension) : PlainKey pair.1 := by
  have keys : ∀ key ∈ ["act", "suser", "suid", "src", "request", "requestMethod", "externalId", "cs1Label", "cs1",
      "cs2Label", "cs2", "cs3Label", "cs3", "outcome"], PlainKey key := by decide
  have member : pair.1 ∈ entry.extension.map Prod.fst := List.mem_map_of_mem among
  exact keys pair.1 member

theorem sentPairs_ne_nil : entry.sentPairs ≠ [] := by
  have label : ("cs1Label", utf8 "request_id") ∈ entry.sentPairs := by
    refine List.mem_filter.mpr ⟨?_, by decide⟩
    simp [extension]
  exact List.ne_nil_of_mem label

def headerTexts (version : Bytes) : List (List Char) :=
  ["CEF:0".toList, "mqconnector".toList, "mqconnector".toList,
    Utf8.text (if version = [] then utf8 "dev" else version), Utf8.text entry.action, Utf8.text entry.name,
    (toString entry.severity).toList]

theorem escape_severity :
    headerEscaper.escape (toString entry.severity).toList = (toString entry.severity).toList := by
  rw [severity]
  split
  · decide
  · split
    · decide
    · decide

end ForwardedEntry

theorem escapeCEFHeader_utf8 (text : String) :
    escapeCEFHeader (utf8 text) = Utf8.encode (headerEscaper.escape text.toList) := by
  rw [escapeCEFHeader, utf8, Utf8.text_encode]

theorem formatCEF_eq (entry : ForwardedEntry) (version : Bytes) :
    formatCEF entry version =
      Utf8.encode (headerEscaper.joined '|' (entry.headerTexts version) (written entry.sentPairs)) := by
  have start : utf8 "CEF:0|" = Utf8.encode (headerEscaper.escape "CEF:0".toList ++ ['|']) := by decide
  have pipe (rest : List Char) : Utf8.encode ('|' :: rest) = utf8 "|" ++ Utf8.encode rest := rfl
  rw [formatCEF, start, escapeCEFHeader_utf8, foldl_appendExtension_nil]
  show _ = Utf8.encode (headerEscaper.escape "CEF:0".toList ++ '|' :: (headerEscaper.escape "mqconnector".toList ++
    '|' :: (headerEscaper.escape "mqconnector".toList ++ '|' ::
      (headerEscaper.escape (Utf8.text (if version = [] then utf8 "dev" else version)) ++ '|' ::
        (headerEscaper.escape (Utf8.text entry.action) ++ '|' :: (headerEscaper.escape (Utf8.text entry.name) ++
          '|' :: (headerEscaper.escape (toString entry.severity).toList ++ '|' :: written entry.sentPairs)))))))
  simp only [Utf8.encode_append, pipe, List.append_assoc, entry.escape_severity]
  rfl

theorem readCEF_formatCEF (entry : ForwardedEntry) (version : Bytes) :
    readCEF (formatCEF entry version) =
      some { action := Utf8.asText entry.action
             name := Utf8.asText entry.name
             extension := entry.sentPairs.map fun pair => (pair.1.toList, Utf8.asText pair.2) } := by
  have cuts : headerEscaper.pieces '|' 7
      (headerEscaper.joined '|' (entry.headerTexts version) (written entry.sentPairs)) =
        (entry.headerTexts version).map headerEscaper.escape ++ [written entry.sentPairs] :=
    Escaper.pieces_joined (by decide) (by decide) (entry.headerTexts version) 0 _
  have plain : ∀ pair ∈ entry.sentPairs, PlainKey pair.1 := fun pair among =>
    entry.plainKey_extension (List.mem_of_mem_filter among)
  rw [readCEF, formatCEF_eq, Utf8.text_encode, cuts]
  show some (CefMessage.mk (Utf8.encode (headerEscaper.unescape (headerEscaper.escape (Utf8.text entry.action))))
    (Utf8.encode (headerEscaper.unescape (headerEscaper.escape (Utf8.text entry.name))))
      (readExtension (written entry.sentPairs))) = _
  rw [Escaper.unescape_escape, Escaper.unescape_escape, Utf8.encode_text, Utf8.encode_text,
    readExtension_written plain entry.sentPairs_ne_nil]

/-- The message is read back as it was sent. -/
def Recovered (entry : ForwardedEntry) (message : Bytes) : Prop :=
  readCEF message = some { action := entry.action
                           name := entry.name
                           extension := entry.sentPairs.map fun pair => (pair.1.toList, pair.2) }

/-- The fields of a row that are sent are texts. -/
def ForwardedEntry.Texts (entry : ForwardedEntry) : Prop :=
  ∀ field ∈ [entry.action, entry.actor, entry.actorSub, entry.remoteIP, entry.resource, entry.id, entry.requestID,
    entry.tenantID], Utf8.Valid field

theorem valid_utf8 (text : String) : Utf8.Valid (utf8 text) :=
  ⟨text.toList, rfl⟩

theorem valid_nil : Utf8.Valid [] :=
  ⟨[], rfl⟩

namespace ForwardedEntry

variable (entry : ForwardedEntry)

theorem valid_name : Utf8.Valid entry.name ↔ Utf8.Valid entry.resource := by
  rw [name]
  split
  case isTrue empty =>
    rw [empty]
    exact iff_of_true (valid_utf8 "audit") valid_nil
  case isFalse => rfl

theorem valid_sentPairs : (∀ pair ∈ entry.sentPairs, Utf8.Valid pair.2) ↔ entry.Texts := by
  have outcome : Utf8.Valid entry.outcome := by
    rw [ForwardedEntry.outcome]
    split
    · exact valid_utf8 _
    · exact valid_utf8 _
  have every : (∀ pair ∈ entry.sentPairs, Utf8.Valid pair.2) ↔ ∀ pair ∈ entry.extension, Utf8.Valid pair.2 := by
    constructor
    · intro sent pair among
      by_cases empty : pair.2 = []
      · rw [empty]
        exact valid_nil
      · exact sent pair (List.mem_filter.mpr ⟨among, decide_eq_true empty⟩)
    · exact fun all pair among => all pair (List.mem_of_mem_filter among)
  rw [every, Texts, extension]
  simp only [List.forall_mem_cons, List.not_mem_nil, false_implies, implies_true, and_true, valid_utf8, true_and,
    outcome]
  tauto

/-- A receiver recovers the fields exactly if they are texts. -/
theorem recovered_iff (version : Bytes) : Recovered entry (formatCEF entry version) ↔ entry.Texts := by
  have pairs : (entry.sentPairs.map fun pair => (pair.1.toList, Utf8.asText pair.2)) =
      (entry.sentPairs.map fun pair => (pair.1.toList, pair.2)) ↔ ∀ pair ∈ entry.sentPairs, Utf8.Valid pair.2 := by
    rw [List.map_inj_left]
    refine forall₂_congr fun pair _ => ?_
    rw [Prod.mk.injEq, Utf8.asText_eq_iff]
    exact and_iff_right rfl
  rw [Recovered, readCEF_formatCEF, Option.some_inj, CefMessage.mk.injEq, Utf8.asText_eq_iff, Utf8.asText_eq_iff,
    pairs, valid_name, valid_sentPairs]
  refine ⟨fun all => all.2.2, fun texts => ⟨?_, ?_, texts⟩⟩
  · exact texts entry.action List.mem_cons_self
  · exact texts entry.resource (by simp)

end ForwardedEntry

/-! ### A frame is one line -/

/-- The only line feed is the last byte. -/
def OneLine (frame : Bytes) : Prop :=
  ∃ line, frame = line ++ [10] ∧ 10 ∉ line

theorem mem_encode_newline (chars : List Char) : 10 ∈ Utf8.encode chars ↔ '\n' ∈ chars :=
  Utf8.mem_encode_iff (by decide) (by decide) chars

theorem mem_text_newline (bytes : Bytes) : '\n' ∈ Utf8.text bytes ↔ 10 ∈ bytes :=
  Utf8.mem_text_iff (by decide) (by decide) bytes

theorem newline_escapeHeader (chars : List Char) : '\n' ∈ headerEscaper.escape chars ↔ '\n' ∈ chars := by
  constructor
  · intro among
    rcases Escaper.mem_escape among with ⟨member, -⟩ | mark | ⟨other, member, coded⟩
    · exact member
    · exact absurd mark (by decide)
    · have same : '\n' = other := headerEscaper.read_code other '\n' coded
      rwa [same]
  · intro member
    exact List.mem_flatMap.mpr ⟨'\n', member, by decide⟩

theorem newline_escapeValue (chars : List Char) : '\n' ∉ valueEscaper.escape chars := by
  intro among
  rcases Escaper.mem_escape among with ⟨-, plain⟩ | mark | ⟨other, -, coded⟩
  · exact absurd plain (by decide)
  · exact absurd mark (by decide)
  · -- the codes are the backslash, the equals sign and two letters
    have read := valueEscaper.read_code other '\n' coded
    have same : other = '\n' := read.symm
    rw [same] at coded
    exact absurd coded (by decide)

theorem newline_written {pairs : List (String × Bytes)} (plain : ∀ pair ∈ pairs, PlainKey pair.1) :
    '\n' ∉ written pairs := by
  have key {pair : String × Bytes} (known : PlainKey pair.1) : '\n' ∉ writtenPair pair := by
    intro among
    rcases List.mem_append.mp among with inKey | inValue
    · exact absurd (known.2 '\n' inKey) (by decide)
    · rcases List.mem_cons.mp inValue with equals | inValue
      · exact absurd equals (by decide)
      · exact newline_escapeValue _ inValue
  cases pairs with
  | nil => exact List.not_mem_nil
  | cons pair pairs =>
    obtain ⟨here, further⟩ := List.forall_mem_cons.mp plain
    intro among
    rcases List.mem_append.mp among with first | rest
    · exact key here first
    · obtain ⟨other, member, inPair⟩ := List.mem_flatMap.mp rest
      rcases List.mem_cons.mp inPair with space | inPair
      · exact absurd space (by decide)
      · exact key (further other member) inPair

theorem newline_formatCEF (entry : ForwardedEntry) (version : Bytes) :
    10 ∈ formatCEF entry version ↔ 10 ∈ version ∨ 10 ∈ entry.action ∨ 10 ∈ entry.resource := by
  have plain : ∀ pair ∈ entry.sentPairs, PlainKey pair.1 := fun pair among =>
    entry.plainKey_extension (List.mem_of_mem_filter among)
  have severity : '\n' ∉ (toString entry.severity).toList := by
    rw [ForwardedEntry.severity]
    split
    · decide
    · split
      · decide
      · decide
  have header (texts : List (List Char)) (rest : List Char) : '\n' ∈ headerEscaper.joined '|' texts rest ↔
      (∃ text ∈ texts, '\n' ∈ text) ∨ '\n' ∈ rest := by
    induction texts with
    | nil => simp [Escaper.joined]
    | cons text texts hypothesis =>
      show '\n' ∈ headerEscaper.escape text ++ '|' :: headerEscaper.joined '|' texts rest ↔ _
      rw [List.mem_append, newline_escapeHeader, List.mem_cons, hypothesis]
      simp [or_assoc]
  have versions : 10 ∈ (if version = [] then utf8 "dev" else version) ↔ 10 ∈ version := by
    split
    case isTrue empty =>
      rw [empty]
      decide
    case isFalse => rfl
  have names : 10 ∈ entry.name ↔ 10 ∈ entry.resource := by
    rw [ForwardedEntry.name]
    split
    case isTrue empty =>
      rw [empty]
      decide
    case isFalse => rfl
  have constants : '\n' ∉ "CEF:0".toList ∧ '\n' ∉ "mqconnector".toList := by decide
  rw [formatCEF_eq, mem_encode_newline, header, ForwardedEntry.headerTexts]
  simp only [List.mem_cons, List.not_mem_nil, or_false, exists_eq_or_imp, exists_eq_left, newline_written plain,
    severity, constants.1, constants.2, mem_text_newline, versions, names, false_or]

/-! ### JSON has no line feed -/

theorem newline_digits (number : Nat) : '\n' ∉ Nat.toDigits 10 number := by
  intro among
  have digit := Nat.isDigit_of_mem_toDigits (by decide) (by decide) among
  exact absurd digit (by decide)

theorem newline_padded (width number : Nat) : '\n' ∉ padded width number := by
  intro among
  rcases List.mem_append.mp among with zeros | digits
  · exact absurd (List.eq_of_mem_replicate zeros) (by decide)
  · exact newline_digits number digits

theorem newline_dateTime (instant : Int) : '\n' ∉ dateTime instant := by
  have sign (year : Int) : '\n' ∉ (if year < 0 then ['-'] else []) := by
    split
    · decide
    · decide
  simp [dateTime, newline_padded, sign]

theorem newline_fraction (nanoseconds : Nat) : '\n' ∉ fraction nanoseconds := by
  rw [fraction]
  split
  · exact List.not_mem_nil
  · intro among
    rcases List.mem_cons.mp among with point | digits
    · exact absurd point (by decide)
    · have inPadded := (List.dropWhile_sublist _).subset (List.mem_reverse.mp digits)
      exact newline_padded 9 nanoseconds (List.mem_reverse.mp inPadded)

theorem newline_int (number : Int) : '\n' ∉ (toString number).toList := by
  rw [toList_toString]
  intro among
  rcases List.mem_append.mp among with sign | digits
  · split at sign
    · exact absurd sign (by decide)
    · exact absurd sign (by decide)
  · exact newline_digits _ digits

theorem digitChar_ne_newline (digit : Nat) : '\n' ≠ Nat.digitChar digit :=
  (Nat.digitChar_ne '\n' (by decide)).symm

theorem newline_jsonRune (rune : Option Char) : '\n' ∉ jsonRune rune := by
  rw [jsonRune.eq_def]
  split
  case h_9 char _ _ _ _ other _ _ =>
    split
    · simp [digitChar_ne_newline]
    · split
      · simp [digitChar_ne_newline]
      · exact fun same => other (List.mem_singleton.mp same).symm
  all_goals decide

theorem newline_jsonString (text : Bytes) : '\n' ∉ jsonString text := by
  intro among
  rcases List.mem_append.mp among with inside | quote
  · rcases List.mem_append.mp inside with quote | runes
    · exact absurd quote (by decide)
    · obtain ⟨rune, -, written⟩ := List.mem_flatMap.mp runes
      exact newline_jsonRune rune written
  · exact absurd quote (by decide)

theorem newline_jsonField {name : String} {value : List Char} (plain : '\n' ∉ name.toList)
    (clean : '\n' ∉ value) :
    '\n' ∉ jsonField name value := by
  simp [jsonField, plain, clean]

theorem newline_timeJSON {instant : Int} {time : List Char} (written : timeJSON instant = some time) :
    '\n' ∉ time := by
  rw [timeJSON] at written
  split at written
  case isTrue =>
    obtain rfl := Option.some.inj written
    simp [newline_dateTime, newline_fraction]
  case isFalse => cases written

theorem newline_marshalEntry (entry : ForwardedEntry) : '\n' ∉ (marshalEntry entry).getD [] := by
  rw [marshalEntry]
  cases written : timeJSON entry.instant with
  | none => exact List.not_mem_nil
  | some time =>
    have string {name : String} (plain : '\n' ∉ name.toList) (text : Bytes) :
        '\n' ∉ jsonField name (jsonString text) := newline_jsonField plain (newline_jsonString text)
    have optional {name : String} (plain : '\n' ∉ name.toList) (text : Bytes) :
        '\n' ∉ (if text = [] then [] else jsonField name (jsonString text)) := by
      split
      · exact List.not_mem_nil
      · exact string plain text
    have at_time : '\n' ∉ jsonField "at" time := newline_jsonField (by decide) (newline_timeJSON written)
    have status : '\n' ∉ jsonField "status" (toString entry.status).toList :=
      newline_jsonField (by decide) (newline_int entry.status)
    simp only [Option.map_some, Option.getD_some, List.mem_append, not_or]
    refine ⟨⟨⟨⟨⟨⟨⟨⟨⟨⟨⟨⟨⟨?_, newline_jsonString _⟩, ?_⟩, at_time⟩, ?_⟩, ?_⟩, ?_⟩, ?_⟩, status⟩, ?_⟩, ?_⟩, ?_⟩, ?_⟩, ?_⟩
    · decide
    · exact string (by decide) _
    · exact string (by decide) _
    · exact string (by decide) _
    · exact string (by decide) _
    · exact string (by decide) _
    · exact string (by decide) _
    · exact string (by decide) _
    · exact optional (by decide) _
    · exact optional (by decide) _
    · decide

/-! ### Rows as frames -/

/-- Where a row is one line: the names of the forwarder have no line feed, nor has, in the Common Event Format,
the header. -/
def SyslogForwarder.Unbroken (forwarder : SyslogForwarder) (entry : ForwardedEntry) : Prop :=
  10 ∉ forwarder.hostname ∧ 10 ∉ forwarder.app ∧
    (forwarder.outputFormat = .cef → 10 ∉ forwarder.version ∧ 10 ∉ entry.action ∧ 10 ∉ entry.resource)

theorem oneLine_append_newline (line : Bytes) : OneLine (line ++ utf8 "\n") ↔ 10 ∉ line := by
  constructor
  · rintro ⟨other, same, clean⟩
    have equal := List.append_inj_left' same rfl
    rwa [equal]
  · exact fun clean => ⟨line, rfl, clean⟩

theorem newline_body (forwarder : SyslogForwarder) (entry : ForwardedEntry) : 10 ∈ forwarder.body entry ↔
    forwarder.outputFormat = .cef ∧ (10 ∈ forwarder.version ∨ 10 ∈ entry.action ∨ 10 ∈ entry.resource) := by
  rw [SyslogForwarder.body]
  split
  case h_1 cef => rw [cef, newline_formatCEF, and_iff_right rfl]
  case h_2 json =>
    rw [json, mem_encode_newline]
    exact iff_of_false (newline_marshalEntry entry) fun both => absurd both.1 (by decide)

/-- A frame is one line exactly if its fields are unbroken. -/
theorem oneLine_format (forwarder : SyslogForwarder) (entry : ForwardedEntry) :
    OneLine (forwarder.format entry) ↔ forwarder.Unbroken entry := by
  have time : 10 ∉ Utf8.encode (formatRFC3339 entry.instant) := by
    rw [mem_encode_newline, formatRFC3339]
    simp [newline_dateTime]
  have start : 10 ∉ utf8 "<133>1 " := by decide
  have space : 10 ∉ utf8 " " := by decide
  have dash : 10 ∉ utf8 " - " := by decide
  have message : 10 ∉ utf8 "audit" := by decide
  rw [SyslogForwarder.format, oneLine_append_newline]
  simp only [List.mem_append, not_or, newline_body, time, start, space, dash, message, not_false_eq_true, true_and,
    and_true, SyslogForwarder.Unbroken, not_and, and_assoc]

/-- One frame for a row, which in the Common Event Format can be read back. -/
structure SyslogForwarder.Faithful (forwarder : SyslogForwarder) (entry : ForwardedEntry) : Prop where
  line : OneLine (forwarder.format entry)
  recovered : forwarder.outputFormat = .cef → Recovered entry (formatCEF entry forwarder.version)

/-- The conditions under which a row is one frame that can be read back, exactly. -/
theorem faithful_iff (forwarder : SyslogForwarder) (entry : ForwardedEntry) :
    forwarder.Faithful entry ↔
      forwarder.Unbroken entry ∧ (forwarder.outputFormat = .cef → entry.Texts) := by
  constructor
  · intro faithful
    exact ⟨(oneLine_format forwarder entry).mp faithful.line, fun cef =>
      (entry.recovered_iff forwarder.version).mp (faithful.recovered cef)⟩
  · rintro ⟨unbroken, texts⟩
    exact ⟨(oneLine_format forwarder entry).mpr unbroken, fun cef =>
      (entry.recovered_iff forwarder.version).mpr (texts cef)⟩

/-! ### A path with a line feed -/

/-- A row for `PUT /api/v1/pipelines/a%0Ab`. -/
def brokenEntry : ForwardedEntry where
  id := utf8 "1"
  tenantID := utf8 "t"
  instant := 0
  actor := utf8 "alice"
  actorSub := utf8 "alice"
  action := utf8 "PUT"
  resource := utf8 "/api/v1/pipelines/a\nb"
  status := 404
  requestID := utf8 "r"
  remoteIP := utf8 "::1"

/-- A forwarder in the Common Event Format breaks this row into two lines. -/
theorem path_breaks_frame :
    ¬ ∀ entry, ({ newSyslogForwarder (utf8 "host") (utf8 "mqconnector") with
      outputFormat := .cef, version := utf8 "1.0" } : SyslogForwarder).Faithful entry := by
  intro faithful
  have unbroken := (oneLine_format _ _).mp (faithful brokenEntry).line
  exact (unbroken.2.2 rfl).2.2 (by decide)

end MqConnector
