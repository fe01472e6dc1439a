import ApiContract.Http.Binding
import ApiContract.Proofs.Json.Line
import ApiContract.Proofs.Schema.Pointer

/-!
# Streams of events are read back

A response that is a stream leaves as text, and a receiver takes the text apart again: it reads
lines, collects the fields on them, and has an event at every blank line.  This module describes
the receiver and shows that it gets the events that a caller inside the process is given.  An
event is framed as a line with its name, a line for each line of its data, and a blank line.
-/

namespace ApiContract.Http.EventStream

open Text (OnOneLine)

/-! ## The receiver -/

/-- An event as its receiver sees it. -/
structure Received where
  name : String
  data : String
  deriving DecidableEq

/-- The lines of a text, the first of which began with the given characters. A line ends with a
line feed, a carriage return or one after the other; characters behind the last end are no line. -/
def linesFrom (begun : List Char) : List Char → List (List Char)
  | [] => []
  | '\r' :: '\n' :: rest => begun :: linesFrom [] rest
  | char :: rest =>
      if char = '\n' ∨ char = '\r' then begun :: linesFrom [] rest
      else linesFrom (begun ++ [char]) rest

/-- The field on a line: its name, and its value without one leading blank. A comment is a field
without a name. -/
def field (line : List Char) : List Char × List Char :=
  let (name, value) := Text.splitAtFirst ':' line
  match value with
  | some (' ' :: value) => (name, value)
  | some value => (name, value)
  | none => (name, [])

/-- The fields of an event that are read so far. -/
structure Pending where
  name : List Char := []
  data : List (List Char) := []

namespace Pending

/-- The fields with that of one more line. Fields of other names do not count. -/
def read (pending : Pending) (line : List Char) : Pending :=
  let (name, value) := field line
  if name = "event".toList then { pending with name := value }
  else if name = "data".toList then { pending with data := pending.data ++ [value] }
  else pending

/-- The event of the fields, if they have data. An event without a name is a message. -/
def event? (pending : Pending) : Option Received :=
  if pending.data = [] then none
  else
    some {
      name := if pending.name = [] then "message" else String.ofList pending.name
      data := String.ofList (['\n'].intercalate pending.data) }

end Pending

/-- The events on lines, of which the first continues pending fields. An event ends with a blank
line. -/
def receive (pending : Pending) : List (List Char) → List Received
  | [] => []
  | [] :: lines => pending.event?.toList ++ receive {} lines
  | line :: lines => receive (pending.read line) lines

/-- The text without the mark of its byte order. -/
def withoutMark : List Char → List Char
  | '\uFEFF' :: chars => chars
  | chars => chars

/-- The events of a text. -/
def decode (text : String) : List Received :=
  receive {} (linesFrom [] (withoutMark text.toList))

/-! ## Frames -/

/-- The lines of an event: one with its name, one for each line of its data, and a blank one. -/
def frameLines (name : List Char) (data : List (List Char)) : List (List Char) :=
  ("event: ".toList ++ name) :: data.map ("data: ".toList ++ ·) ++ [[]]

/-- Lines with their ends. -/
def written (lines : List (List Char)) : List Char :=
  lines.flatMap (· ++ ['\n'])

/-- The frame of an event. -/
def frame (name data : List Char) : List Char :=
  written (frameLines name (Text.splitOnChar '\n' data))

theorem linesFrom_written_line {line : List Char} (whole : OnOneLine line)
    (begun rest : List Char) :
    linesFrom begun (line ++ '\n' :: rest) = (begun ++ line) :: linesFrom [] rest := by
  induction line generalizing begun with
  | nil => simp [linesFrom]
  | cons char line ih =>
      obtain ⟨⟨noFeed, noReturn⟩, others⟩ := Text.onOneLine_cons.mp whole
      rw [List.cons_append, linesFrom]
      · rw [if_neg (not_or.mpr ⟨noFeed, noReturn⟩), ih others]
        simp
      · rintro _ rfl
        exact absurd rfl noReturn

/-- Lines that are written are read again. -/
theorem linesFrom_written {lines : List (List Char)} (whole : ∀ line ∈ lines, OnOneLine line)
    (rest : List Char) : linesFrom [] (written lines ++ rest) = lines ++ linesFrom [] rest := by
  induction lines with
  | nil => rfl
  | cons line lines ih =>
      rw [List.forall_mem_cons] at whole
      have ends : written (line :: lines) ++ rest = line ++ '\n' :: (written lines ++ rest) := by
        simp [written]
      rw [ends, linesFrom_written_line whole.1, ih whole.2]
      rfl

theorem read_data (pending : Pending) (value : List Char) :
    pending.read ("data: ".toList ++ value) = { pending with data := pending.data ++ [value] } :=
  rfl

theorem receive_data (pending : Pending) (data rest : List (List Char)) :
    receive pending (data.map ("data: ".toList ++ ·) ++ rest) =
      receive { pending with data := pending.data ++ data } rest := by
  induction data generalizing pending with
  | nil => simp
  | cons line data ih =>
      have read : receive pending
            (("data: ".toList ++ line) :: (data.map ("data: ".toList ++ ·) ++ rest)) =
          receive (pending.read ("data: ".toList ++ line))
            (data.map ("data: ".toList ++ ·) ++ rest) := rfl
      rw [List.map_cons, List.cons_append, read, read_data, ih]
      simp

/-- The lines of an event are received as that event. -/
theorem receive_frameLines {name : List Char} {data : List (List Char)} (named : name ≠ [])
    (filled : data ≠ []) (rest : List (List Char)) :
    receive {} (frameLines name data ++ rest) =
      ⟨String.ofList name, String.ofList (['\n'].intercalate data)⟩ :: receive {} rest := by
  have begins : receive {} (frameLines name data ++ rest) =
      receive { name := name } (data.map ("data: ".toList ++ ·) ++ [] :: rest) := by
    rw [frameLines, List.append_assoc]
    rfl
  rw [begins, receive_data]
  simp [receive, Pending.event?, named, filled]

/-! ## Streams -/

/-- What is received of an event: its name, and its data as compact JSON. -/
def Received.ofEvent (event : StreamEvent) : Received :=
  ⟨event.name, event.data.toJson.compact⟩

/-- The record of an event, as a caller inside the process reads it. -/
def record? (record : Json) : Option Received := do
  let name ← record.get? "event" >>= Json.asString?
  let data ← record.get? "data"
  return ⟨name, data.compact⟩

/-- The records of a stream, as a caller inside the process reads them. -/
def records? (payload : Json) : Option (List Received) := do
  (← payload.asArray?).mapM record?

theorem record?_toJson (event : StreamEvent) : record? event.toJson = some (.ofEvent event) :=
  rfl

theorem mapM_record?_toJson (events : List StreamEvent) :
    (events.map StreamEvent.toJson).mapM record? = some (events.map .ofEvent) := by
  induction events with
  | nil => rfl
  | cons event rest ih =>
      rw [List.map_cons, List.mapM_cons, record?_toJson, ih]
      rfl

theorem records?_toLocal {response : Response} {events : List StreamEvent}
    (streamed : response.events = some events) :
    records? response.toLocal.payload = some (events.map .ofEvent) := by
  rw [Response.toLocal, streamed]
  exact mapM_record?_toJson events

theorem onOneLine_iff_isEventName {name : String} :
    OnOneLine name.toList ↔ isEventName name := by
  simp [OnOneLine, isEventName]

/-- Data that is JSON takes one line of a frame. -/
theorem frame_json (name : List Char) (json : Json) :
    frame name json.chars = written (frameLines name [json.chars]) := by
  have unbroken : '\n' ∉ json.chars := fun member => (json.onOneLine_chars _ member).1 rfl
  rw [frame, Text.splitOnChar_of_not_mem unbroken]

theorem toList_eventText (event : StreamEvent) :
    (eventText event).toList = frame event.name.toList event.data.toJson.chars := by
  have shape : eventText event =
      "event: " ++ event.name ++ "\ndata: " ++ event.data.toJson.compact ++ "\n\n" := rfl
  rw [frame_json, shape]
  simp [written, frameLines, Json.compact]

/-- A stream leaves as the frames of its events, one after the other. -/
theorem toList_join_eventText (events : List StreamEvent) :
    (String.join (events.map eventText)).toList =
      events.flatMap fun event => frame event.name.toList event.data.toJson.chars := by
  rw [String.toList_join, List.flatMap_map]
  exact congrArg events.flatMap (funext toList_eventText)

variable {event : StreamEvent} {events : List StreamEvent}

/-- The event can be told from its frame: it has a name, and the name is on one line. -/
def IsNamed (event : StreamEvent) : Prop :=
  event.name ≠ "" ∧ isEventName event.name

instance (event : StreamEvent) : Decidable (IsNamed event) :=
  inferInstanceAs (Decidable (_ ∧ _))

/-- An event in front of a stream is received in front of the others. -/
theorem receive_eventText (named : IsNamed event) (rest : List Char) :
    receive {} (linesFrom [] ((eventText event).toList ++ rest)) =
      .ofEvent event :: receive {} (linesFrom [] rest) := by
  have data := event.data.toJson.onOneLine_chars
  have name := onOneLine_iff_isEventName.mpr named.2
  have filled : event.name.toList ≠ [] := by
    simpa using named.1
  have whole : ∀ line ∈ frameLines event.name.toList [event.data.toJson.chars],
      OnOneLine line := by
    simp [frameLines, data, name]
  rw [toList_eventText, frame_json, linesFrom_written whole,
    receive_frameLines filled (List.cons_ne_nil _ _)]
  simp [Received.ofEvent, Json.compact]

theorem receive_events (named : ∀ event ∈ events, IsNamed event) :
    receive {} (linesFrom [] (String.join (events.map eventText)).toList) =
      events.map .ofEvent := by
  rw [String.toList_join]
  induction events with
  | nil => rfl
  | cons event rest ih =>
      rw [List.forall_mem_cons] at named
      rw [List.map_cons, List.flatMap_cons, receive_eventText named.1, ih named.2, List.map_cons]

/-- A stream of events does not begin with a mark. -/
theorem withoutMark_events (events : List StreamEvent) :
    withoutMark (String.join (events.map eventText)).toList =
      (String.join (events.map eventText)).toList := by
  rw [toList_join_eventText]
  cases events with
  | nil => rfl
  | cons event rest =>
      rw [List.flatMap_cons, frame, written, frameLines]
      rfl

/-- What is sent for events is received as these events. -/
theorem decode_events (named : ∀ event ∈ events, IsNamed event) :
    decode (String.join (events.map eventText)) = events.map .ofEvent := by
  rw [decode, withoutMark_events, receive_events named]

/-- Comments and fields of other names are no events, and lines of data are joined, however they
end. -/
example :
    decode ":\n\nevent: note\rid: 7\ndata: a\r\ndata:b\n\n" = [⟨"note", "a\nb"⟩] := by
  decide +kernel

/-- A stream leaves as framed events, in which a receiver finds, in order, the names and the
compact data of the records that a caller inside the process gets. -/
theorem decodes_to_records (response : Response) (streamed : response.events = some events)
    (named : ∀ event ∈ events, IsNamed event) :
    ∃ text, (WireResponse.ofResponse response).body.text? = some text ∧
      text.toList =
        (events.flatMap fun event => frame event.name.toList event.data.toJson.chars) ∧
      records? response.toLocal.payload = some (decode text) ∧
      decode text = events.map .ofEvent := by
  have body : (WireResponse.ofResponse response).body = .events events := by
    rw [WireResponse.ofResponse, streamed]
    rfl
  have writable : events.all fun event => isEventName event.name := by
    rw [List.all_eq_true]
    intro event member
    exact (named event member).2
  refine ⟨String.join (events.map eventText), ?_, ?_, ?_, decode_events named⟩
  · rw [body, WireBody.text?, if_pos writable]
  · exact toList_join_eventText events
  · rw [records?_toLocal streamed, decode_events named]

/-- Text with a line break, and a name that looks like a field. -/
def notices : List StreamEvent :=
  [⟨"note", .string "a\nb"⟩, ⟨" data: x", .array [.null, .bool true]⟩]

theorem notices_decode_to_records :
    (∀ event ∈ notices, IsNamed event) ∧
      notices.map Received.ofEvent = [⟨"note", "\"a\\nb\""⟩, ⟨" data: x", "[null,true]"⟩] ∧
      ∃ text, (WireResponse.ofResponse { events := some notices }).body.text? = some text ∧
        text.toList =
          (notices.flatMap fun event => frame event.name.toList event.data.toJson.chars) ∧
        records? (Response.toLocal { events := some notices }).payload = some (decode text) ∧
        decode text = notices.map .ofEvent :=
  ⟨by decide, by decide +kernel, decodes_to_records { events := some notices } rfl (by decide)⟩

end ApiContract.Http.EventStream
