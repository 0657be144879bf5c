import EventRules.Event.CloudTrail
import EventRules.Pattern
import EventRules.Proofs.Compile.Renamed
import EventRules.Proofs.Event.Json
import EventRules.Proofs.Json.Text

/-!
# CloudTrail events as JSON

The text of an event is read back as the event, and as a JSON event it answers for every field as the
event does, so that predicates end alike on both (`CloudTrailEvent.render_agrees`).
-/

namespace EventRules.CloudTrailEvent

open Json

variable (e : CloudTrailEvent)

/-! ### The text -/

/-- The name of an event as a member, null if there is none. -/
def nameMember : Member where
  key := "eventName"
  value := e.eventName.elim .null fun name => .string (some name)
  text := e.eventName.elim "null".toList fun name => renderString name.toList

def timeMember : Member where
  key := "time"
  value := .number (.ofInt e.time.toInt)
  text := renderInt e.time.toInt

theorem nameMember_written : e.nameMember.value.WrittenAs e.nameMember.text := by
  obtain ⟨_ | name, time⟩ := e
  · exact null_written
  · exact string_written name

theorem tree_render : Tree.read? e.render = some (.object [e.nameMember.tree, e.timeMember.tree]) := by
  refine Tree.read?_renderObject [e.nameMember, e.timeMember] fun m hm => ?_
  rcases List.mem_pair.1 hm with rfl | rfl
  · exact e.nameMember_written
  · exact integer_written e.time.toInt

theorem value?_time : (NumberText.ofInt e.time.toInt).value? = some (.integer e.time.toInt) :=
  value?_ofInt (Digits.inInt64_toInt e.time)

theorem int64?_time : (Tree.number (.ofInt e.time.toInt)).int64? = some e.time := by
  simp [Tree.int64?, value?_time, Digits.inInt64_toInt, Int64.ofInt_toInt]

theorem read?_render : read? e.render = some e := by
  have hfields : Record.fields? ["eventName", "time"] (.object [e.nameMember.tree, e.timeMember.tree]) =
      some [some e.nameMember.value, some e.timeMember.value] := rfl
  have htime := e.int64?_time
  rw [read?, tree_render, Option.bind_some, hfields, Option.bind_some]
  obtain ⟨_ | name, time⟩ := e
  · simp [ofFields?, nameMember, timeMember, Tree.optionalString?, htime]
  · simp [ofFields?, nameMember, timeMember, Tree.optionalString?, htime]

/-! ### The JSON event -/

def nameValue : Json :=
  e.eventName.elim .null .string

def value : Json :=
  .object [("eventName", e.nameValue), ("time", .number (.integer e.time.toInt))]

theorem denote?_nameMember : e.nameMember.value.denote? = some e.nameValue := by
  obtain ⟨_ | name, time⟩ := e <;> rfl

theorem depth_nameMember : e.nameMember.value.depth = 0 := by
  obtain ⟨_ | name, time⟩ := e <;> rfl

theorem json_render : Json.read? e.render = some e.value := by
  have hdepth : (Tree.object [e.nameMember.tree, e.timeMember.tree]).depth = 1 := by
    simp [Tree.depth, Tree.membersDepth, Member.tree, depth_nameMember, timeMember]
  have hmembers : Tree.membersDenote? [e.nameMember.tree, e.timeMember.tree] =
      some [("eventName", e.nameValue), ("time", .number (.integer e.time.toInt))] := by
    simp only [Tree.membersDenote?, Member.tree, denote?_nameMember, timeMember, Tree.denote?,
      value?_time]
    rfl
  rw [Json.read?, tree_render, Option.bind_some, hdepth, Tree.denote?, hmembers]
  rfl

/-- Both members are scalars, so the name of a field is taken as it is, dots or not. -/
theorem value?_render (field : String) (timeField : Option String) :
    JsonEvent.value? ⟨e.value, timeField⟩ field = e.value? field := by
  have hscalars : ∀ m ∈ [("eventName", e.nameValue), ("time", .number (.integer e.time.toInt))],
      m.2.IsScalar := by
    intro m hm
    rcases List.mem_pair.1 hm with rfl | rfl
    · obtain ⟨_ | name, time⟩ := e <;> trivial
    · trivial
  rw [JsonEvent.value?, value, lookup?_flat hscalars]
  by_cases hname : field = "eventName"
  · subst hname
    obtain ⟨_ | name, time⟩ := e <;> rfl
  by_cases htime : field = "time"
  · subst htime
    simp [List.lookup_cons, value?, fieldValue?, Digits.inInt64_toInt, Int64.ofInt_toInt]
  · have hname' : (field == "eventName") = false := beq_false_of_ne hname
    have htime' : (field == "time") = false := beq_false_of_ne htime
    simp [List.lookup_cons, value?, hname', htime']

/-- The text of an event is read as the event and as a JSON event that answers like it for every field,
so that no predicate tells them apart. -/
theorem render_agrees [PatternEngine] (e : CloudTrailEvent) (timeField : Option String) :
    read? e.render = some e ∧ ∃ j, JsonEvent.read? e.render timeField = some j ∧
      (∀ field, j.value? field = e.value? field) ∧
      ∀ names p, Compile.Makes names p → p j.datum = p e.datum := by
  refine ⟨e.read?_render, ⟨e.value, timeField⟩, by rw [JsonEvent.read?, json_render]; rfl,
    fun field => e.value?_render field timeField, fun names p hp => hp.congr fun field => ⟨rfl, ?_⟩⟩
  have hvalue := e.value?_render (names.storedName field) timeField
  show FieldValue.Alike (JsonEvent.value? ⟨e.value, timeField⟩ _) (e.value? _)
  rw [hvalue]
  exact .same _

/-- The time is an integer, which no comparison reads. -/
theorem render_agrees_late :
    let e : CloudTrailEvent := ⟨some "Delete\n\"Function\"", -42⟩
    ∃ p j, Compile.item .empty (.field "time" (.compare ">" (.integer 5))) = .ok p ∧
      read? e.render = some e ∧ JsonEvent.read? e.render none = some j ∧
      p e.datum = .fail ⟨"time", "float"⟩ ∧ p j.datum = .fail ⟨"time", "float"⟩ := by
  intro e
  have hp : Compile.item .empty (.field "time" (.compare ">" (.integer 5))) =
      .ok (Compile.itemTest .empty (.field "time" (.compare ">" (.integer 5)))) := by
    rw [Compile.item_eq]; rfl
  obtain ⟨hread, j, hj, -, hsame⟩ := render_agrees e none
  have hfails : Compile.itemTest .empty (.field "time" (.compare ">" (.integer 5))) e.datum =
      .fail ⟨"time", "float"⟩ := rfl
  exact ⟨_, j, hp, hread, hj, hfails, (hsame .empty _ (.item hp)).trans hfails⟩

end EventRules.CloudTrailEvent
