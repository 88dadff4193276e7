import Dialogue.Calendar.Moment
import Dialogue.Calendar.Span
import Dialogue.Flow.Basic

/-!
# Sessions

A session is what is known of one contact in one flow: the node where the conversation stands, the
values gathered so far, what was said last, and when the conversation counts as abandoned.

Values live in two kinds of namespaces: one record is shared by all nodes, and each node that has
produced values has one of its own. `Session.scope` joins them for templates and guards.

* `history_say`: what was said is a window on everything said before and now.
* `isIdle_mono`: a session that is idle stays so at all later moments.
-/

namespace Dialogue

/-- The two sides of a conversation. -/
inductive Party where
  | contact
  | bot
  deriving DecidableEq, Repr, Inhabited

/-- The name of a side in documents. -/
def Party.name : Party → String
  | contact => "user"
  | bot => "assistant"

/-- Something that was said. -/
structure Utterance where
  party : Party
  text : String
  time : Moment
  deriving DecidableEq, Repr

/-- Where a value lives: in the record of all nodes, or in the record of one. -/
inductive Namespace where
  | shared
  | node (id : String)
  deriving DecidableEq, Repr

/-- A conversation with one contact in one flow. -/
structure Session where
  id : String
  tenant : String
  contact : String
  flow : String
  entry : String
  current : String
  awaiting : Bool
  globals : Fields Value
  records : Fields (Fields Value)
  latest : Option String
  history : List Utterance
  window : Nat
  attempts : Fields Nat
  created : Moment
  lastActive : Moment
  deadline : Moment
  idleSeconds : Int
  deriving DecidableEq, Repr

/-- A session that was asked for after its deadline. -/
structure Expiry where
  key : String
  time : Moment
  deriving DecidableEq, Repr

/-- The wording of an expiry. -/
def Expiry.message (e : Expiry) : String :=
  "session `" ++ e.key ++ "` expired at " ++ e.time.display

namespace Session

/-- The key of a contact among those of all tenants. -/
def keyOf (tenant contact : String) : String := tenant ++ ":" ++ contact

/-- The most seconds that an idle time has. -/
def mostIdleSeconds : Nat := twoTo 63 - 1

/-- A session at the entry of a flow, with nothing said and nothing known. -/
def start (id tenant contact : String) (f : Flow) (window : Nat) (idle : Span) (now : Moment) :
    Session :=
  let idleSeconds : Int := min idle.seconds mostIdleSeconds
  { id, tenant, contact, flow := f.id, entry := f.entry, current := f.entry, awaiting := false,
    globals := [], records := [], latest := none, history := [], window := max window 1,
    attempts := [], created := now, lastActive := now, deadline := now.plus idleSeconds, idleSeconds }

/-- The key of the contact of a session. -/
def key (s : Session) : String := keyOf s.tenant s.contact

/-- The record of a node, empty when the node has produced nothing. -/
def record (s : Session) (node : String) : Fields Value := (Fields.get? s.records node).getD []

/-- The value under a name in a namespace. -/
def get? (s : Session) (name : String) : Namespace → Option Value
  | .shared => Fields.get? s.globals name
  | .node id => (Fields.get? s.records id).bind (Fields.get? · name)

/-- Puts a value under a name in a namespace. -/
def set (s : Session) (name : String) (value : Value) : Namespace → Session
  | .shared => { s with globals := Fields.insert name value s.globals }
  | .node id =>
    { s with records := Fields.insert id (Fields.insert name value (s.record id)) s.records }

/-- Adds the values under some names to other values, except where there is null or nothing. -/
def exported (values : Fields Value) (names : List String) (globals : Fields Value) :
    Fields Value :=
  names.foldl (fun globals name =>
    match Fields.get? values name with
    | none | some .null => globals
    | some v => Fields.insert name v globals) globals

/-- Adds what a node has produced to its record, and what it exports to the record of all nodes. -/
def merge (s : Session) (node : String) (values : Fields Value) (exports : List String) : Session :=
  { s with
    globals := exported values exports s.globals
    records := Fields.insert node (Fields.merge (s.record node) values) s.records
    latest := some node }

/-- The last so many of a list. -/
def lastOf {α : Type} (n : Nat) (items : List α) : List α := items.drop (items.length - n)

/-- Adds what was said, forgetting what falls out of the window. -/
def say (s : Session) (party : Party) (text : String) (now : Moment) : Session :=
  { s with history := lastOf s.window (s.history ++ [⟨party, text, now⟩]) }

/-- What the contact said last, as far as it is remembered. -/
def lastMessage? (s : Session) : Option String :=
  (s.history.reverse.find? (·.party == .contact)).map (·.text)

/-- Notes that there was activity. -/
def touch (s : Session) (now : Moment) : Session :=
  { s with lastActive := now, deadline := now.plus s.idleSeconds }

/-- Forgets everything and goes back to the entry. -/
def reset (s : Session) (now : Moment) : Session :=
  { s with
    current := s.entry, awaiting := false, globals := [], records := [], latest := none,
    history := [], attempts := [] }.touch now

/-- Whether the deadline has come. -/
def isIdle (s : Session) (now : Moment) : Bool := s.deadline.le now

/-- That the deadline has come, when it has. -/
def expiry? (s : Session) (now : Moment) : Option Expiry :=
  if s.isIdle now then some ⟨s.key, s.deadline⟩ else none

/-- How many answers a node has refused in a row. -/
def refused (s : Session) (node : String) : Nat := (Fields.get? s.attempts node).getD 0

/-- Sets how many answers a node has refused in a row; nothing stands for none. -/
def setRefused (s : Session) (node : String) (count : Option Nat) : Session :=
  match count with
  | some n => { s with attempts := Fields.insert node n s.attempts }
  | none => { s with attempts := Fields.erase s.attempts node }

/-- Adds the records of nodes under the names of the nodes, where the names are free. -/
def withRecords (records : Fields (Fields Value)) (root : Fields Value) : Fields Value :=
  records.foldl (fun root (node, record) =>
    if Fields.has root node then root else Fields.insert node (.record record) root) root

/-- Adds fields that are not null, replacing those there. -/
def withKnown (record root : Fields Value) : Fields Value :=
  record.foldl (fun root (name, value) =>
    if value = .null then root else Fields.insert name value root) root

/-- What the latest node has produced. -/
def latestRecord (s : Session) : Fields Value := (s.latest.map s.record).getD []

/-- The names under which whole groups of values are found, with these values. -/
def reserved (s : Session) (constants : Fields Value) : Fields Value :=
  [("contact", .text s.contact), ("flow", .record constants), ("global", .record s.globals),
    ("last_message", (s.lastMessage?.map Value.text).getD .null), ("tenant", .text s.tenant)]

/-- The fields that templates and guards see. A bare name stands for what the latest node has
produced, else for a value of all nodes, else for a variable of the flow. -/
def scopeFields (s : Session) (constants : Fields Value) : Fields Value :=
  Fields.merge
    (withKnown s.latestRecord (withRecords s.records (Fields.merge constants s.globals)))
    (s.reserved constants)

/-- The values that templates and guards see. -/
def scope (s : Session) (constants : Fields Value) : Value := .record (s.scopeFields constants)

/-- What is remembered is the last part of what was remembered, with what is said now. -/
theorem history_say (s : Session) (party : Party) (text : String) (now : Moment) :
    (s.say party text now).history = lastOf s.window (s.history ++ [⟨party, text, now⟩]) := rfl

/-- A session that is idle stays so at all later moments. -/
theorem isIdle_mono {s : Session} {t u : Moment} (h : t.le u = true) (hs : s.isIdle t = true) :
    s.isIdle u = true := by
  simp only [isIdle, Moment.le, Bool.or_eq_true, Bool.and_eq_true, decide_eq_true_eq,
    beq_iff_eq] at *
  omega

end Session

/-- Minutes of idle time, at most those that a flow may ask for. -/
def idleMinutes (minutes : Nat) : Span := Span.ofSeconds (min minutes Flow.longestIdle * 60)

end Dialogue
