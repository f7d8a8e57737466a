import WorkerPool.Log.Line
import WorkerPool.Proofs.Log.Fields
import WorkerPool.Proofs.Log.Reading

/-!
# Nothing is lost in a line

The line of an event is read as one object. It has the message that was recorded last, and of every other
name the value that was recorded last under it, in the context or in the data of the line. No name of a
field can take the place of a part of the line.
-/

namespace WorkerPool.Log

inductive Last {α : Type} (p : α → Prop) : List α → α → Prop
  | intro {before after : List α} {x : α} (here : p x) (later : ∀ y ∈ after, ¬ p y) :
      Last p (before ++ x :: after) x

theorem last_of_find?_reverse {α : Type} {p : α → Bool} {l : List α} {x : α}
    (found : l.reverse.find? p = some x) : Last (fun y => p y = true) l x := by
  obtain ⟨here, after, before, split, none⟩ := List.find?_eq_some_iff_append.mp found
  have whole : l = before.reverse ++ x :: after.reverse := by
    rw [← List.reverse_reverse l, split]
    simp
  rw [whole]
  refine .intro here fun y member holds => ?_
  have fails := none y (List.mem_reverse.mp member)
  rw [holds] at fails
  cases fails

/-- Whether this can be read for a recorded value. -/
inductive Datum.Tells : Datum → Value → Prop
  | text (s : String) : Tells (.text s) (.text s)
  | shown (s : String) : Tells (.text s) (.shown s)
  | int {l : Decimal.Literal} {n : Int} (whole : l.IsInt n) : Tells (.number l) (.int n)
  | number {d : Datum} {x : Decimal.Number} (shows : d.Shows x) : Tells d (.number x)
  | bool (b : Bool) : Tells (.bool b) (.bool b)

/-- Whether a recorded number is of binary64. -/
def Value.IsBinary (v : Value) : Prop := ∀ x, v = .number x → ∃ bits, x = .ofBits bits

theorem sound_toJson {v : Value} (binary : v.IsBinary) : v.toJson.Sound := by
  cases v with
  | text s => exact .text s
  | shown s => exact .text s
  | int n => exact .int n
  | number x =>
    obtain ⟨bits, rfl⟩ := binary x rfl
    exact .number bits
  | bool b => exact .bool b

theorem tells_toJson {v : Value} (binary : v.IsBinary) : v.toJson.datum.Tells v := by
  cases v with
  | text s => exact .text s
  | shown s => exact .shown s
  | int n => exact .int (Decimal.literal_ofInt n)
  | number x =>
    obtain ⟨bits, rfl⟩ := binary x rfl
    exact .number (Json.shows_datum bits)
  | bool b => exact .bool b

def Fields.data (fields : Fields Value) : List (String × Datum) :=
  Json.data (fields.map fun (name, value) => (name, value.toJson))

theorem Fields.keys_data (fields : Fields Value) : fields.data.map Prod.fst = fields.map Prod.fst := by
  induction fields with
  | nil => rfl
  | cons f rest ih => exact congrArg (f.1 :: ·) ih

theorem Fields.lookup_data (fields : Fields Value) (name : String) :
    fields.data.lookup name = (fields.find? name).map fun value => value.toJson.datum := by
  induction fields with
  | nil => rfl
  | cons f rest ih =>
    obtain ⟨key, value⟩ := f
    change List.lookup name ((key, value.toJson.datum) :: Fields.data rest) = _
    rw [Fields.find?_cons, List.lookup_cons]
    by_cases same : name = key
    · simp [same]
    · have other : (name == key) = false := beq_eq_false_iff_ne.mpr same
      rw [other, if_neg same]
      exact ih

/-- The message that a field gives, if it is recorded as a text under the name of the message. -/
inductive Gives : String × Value → String → Prop
  | text (s : String) : Gives ("message", .text s) s
  | shown (s : String) : Gives ("message", .shown s) s

def IsMessage (f : String × Value) : Prop := ∃ s, Gives f s

/-- Whether this is the message recorded last, or empty for want of one. -/
inductive IsLastMessage (fields : List (String × Value)) : String → Prop
  | last {f : String × Value} {s : String} (last : Last IsMessage fields f) (gives : Gives f s) :
      IsLastMessage fields s
  | none (none : ∀ f ∈ fields, ¬ IsMessage f) : IsLastMessage fields ""

/-- Whether entries have under this name the value recorded last under it, messages apart, and nothing if
there is none. -/
inductive Carries (fields : List (String × Value)) (entries : List (String × Datum)) (name : String) : Prop
  | last {value : Value} {d : Datum}
      (last : Last (fun f => f.1 = name ∧ ¬ IsMessage f) fields (name, value))
      (found : entries.lookup name = some d) (tells : d.Tells value)
  | none (none : ∀ f ∈ fields, f.1 = name → IsMessage f) (absent : entries.lookup name = .none)

structure IsContext (service : String) (fields : List (String × Value)) (ctx : List (String × Datum)) :
    Prop where
  nodup : (ctx.map Prod.fst).Nodup
  service : ctx.lookup "service" = some (.text service)
  promoted : ∀ name ∈ ["pool", "worker"], Carries fields ctx name
  others : ∀ name ∉ ["service", "pool", "worker"], ctx.lookup name = none

structure IsData (fields : List (String × Value)) (data : List (String × Datum)) : Prop where
  nodup : (data.map Prod.fst).Nodup
  promoted : ∀ name ∈ ["pool", "worker"], data.lookup name = none
  others : ∀ name ∉ ["pool", "worker"], Carries fields data name

/-- Whether an object is the line of an event. -/
structure IsLine (service time : String) (e : Event) (entries : List (String × Datum)) : Prop where
  keys : (entries.map Prod.fst).Perm ["ts", "level", "type", "msg", "ctx", "data"]
  time : entries.lookup "ts" = some (.text time)
  level : entries.lookup "level" = some (.text e.level.name)
  kind : entries.lookup "type" = some (.text (if e.level = .error then "error" else "app"))
  message : ∃ s, entries.lookup "msg" = some (.text s) ∧ IsLastMessage e.fields s
  context : ∃ ctx, entries.lookup "ctx" = some (.object ctx) ∧ IsContext service e.fields ctx
  data : ∃ data, entries.lookup "data" = some (.object data) ∧ IsData e.fields data

theorem message?_eq_some_iff {value : Value} {s : String} :
    value.message? = some s ↔ value = .text s ∨ value = .shown s := by
  cases value <;> simp [Value.message?]

theorem gives_iff {f : String × Value} {s : String} :
    Gives f s ↔ f.1 = "message" ∧ f.2.message? = some s := by
  rw [message?_eq_some_iff]
  constructor
  · rintro (s | s)
    · exact ⟨rfl, .inl rfl⟩
    · exact ⟨rfl, .inr rfl⟩
  · obtain ⟨name, value⟩ := f
    rintro ⟨rfl, rfl | rfl⟩
    · exact .text s
    · exact .shown s

theorem isMessage_iff {f : String × Value} : Event.isMessage f = true ↔ IsMessage f := by
  simp only [IsMessage, gives_iff, Event.isMessage, Bool.and_eq_true, beq_iff_eq, Option.isSome_iff_exists,
    exists_and_left]

variable {e : Event} {name : String} {fields : Fields Value}

theorem isLastMessage (e : Event) : IsLastMessage e.fields e.message := by
  rw [Event.message]
  cases found : e.fields.reverse.find? Event.isMessage with
  | none =>
    refine .none fun f member message => ?_
    exact List.find?_eq_none.mp found f (List.mem_reverse.mpr member) (isMessage_iff.mpr message)
  | some f =>
    have last := last_of_find?_reverse found
    simp only [isMessage_iff] at last
    obtain ⟨s, gives⟩ := isMessage_iff.mp (List.find?_some found)
    rw [Option.bind_some, (gives_iff.mp gives).2, Option.getD_some]
    exact .last last gives

theorem find?_data (e : Event) (name : String) :
    e.data.find? name =
      (e.fields.reverse.find? fun f => !Event.isMessage f && f.1 == name).map (·.2) := by
  rw [Event.data, Fields.find?_ofList, ← List.filter_reverse, List.find?_filter]
  simp only [Bool.decide_and, Bool.decide_eq_true]

theorem isBinary_of_mem_data (binary : ∀ f ∈ e.fields, f.2.IsBinary) : ∀ f ∈ e.data, f.2.IsBinary :=
  fun f member => binary f (List.mem_of_mem_filter (Fields.mem_ofList member))

/-- Fields that have of a name what the data of an event has. -/
theorem carries_of_find? (binary : ∀ f ∈ e.fields, f.2.IsBinary)
    (same : fields.find? name = e.data.find? name) : Carries e.fields fields.data name := by
  have found := Fields.lookup_data fields name
  rw [same, find?_data] at found
  cases recorded : e.fields.reverse.find? fun f => !Event.isMessage f && f.1 == name with
  | none =>
    -- What has the name and is not in the data can only be a message.
    rw [recorded] at found
    refine .none (fun f member named => ?_) found
    have passed := List.find?_eq_none.mp recorded f (List.mem_reverse.mpr member)
    by_contra other
    rw [← isMessage_iff, Bool.not_eq_true] at other
    simp [other, named] at passed
  | some f =>
    rw [recorded] at found
    have last := last_of_find?_reverse recorded
    simp only [Bool.and_eq_true, Bool.not_eq_true', beq_iff_eq, ← Bool.not_eq_true, isMessage_iff] at last
    have named : f.1 = name := by
      have passed := List.find?_some recorded
      simp only [Bool.and_eq_true, beq_iff_eq] at passed
      exact passed.2
    subst named
    simp only [and_comm (a := ¬ IsMessage _)] at last
    have member : f ∈ e.fields := List.mem_reverse.mp (List.mem_of_find?_eq_some recorded)
    exact .last last found (tells_toJson (binary f member))

theorem isContext (service : String) (binary : ∀ f ∈ e.fields, f.2.IsBinary) :
    IsContext service e.fields (Fields.data (Entry.ofEvent service e).context) := by
  have find (name : String) : Fields.find? (Entry.ofEvent service e).context name =
      if name = "service" then some (.text service)
      else if contextNames.contains name then e.data.find? name else none := by
    rw [Entry.ofEvent, Fields.find?_put]
    congr 1
    exact Fields.find?_filter contextNames.contains e.data name
  refine ⟨?_, ?_, fun name promoted => carries_of_find? binary ?_, fun name other => ?_⟩
  · rw [Fields.keys_data]
    exact Fields.nodup_keys (Fields.pairwise_put ((Fields.pairwise_ofList _).filter _))
  · rw [Fields.lookup_data, find, if_pos rfl]
    rfl
  · have member : contextNames.contains name = true := List.contains_iff_mem.mpr promoted
    have differs : name ≠ "service" := by
      rintro rfl
      exact absurd promoted (by decide)
    rw [find, if_neg differs, if_pos member]
  · obtain ⟨differs, promoted⟩ := not_or.mp (mt List.mem_cons.mpr other)
    have member : ¬ contextNames.contains name = true := mt List.contains_iff_mem.mp promoted
    rw [Fields.lookup_data, find, if_neg differs, if_neg member]
    rfl

theorem isData (service : String) (binary : ∀ f ∈ e.fields, f.2.IsBinary) :
    IsData e.fields (Fields.data (Entry.ofEvent service e).data) := by
  have find (name : String) : Fields.find? (Entry.ofEvent service e).data name =
      if !contextNames.contains name then e.data.find? name else none :=
    Fields.find?_filter (fun name => !contextNames.contains name) e.data name
  refine ⟨?_, fun name promoted => ?_, fun name other => carries_of_find? binary ?_⟩
  · rw [Fields.keys_data]
    exact Fields.nodup_keys ((Fields.pairwise_ofList _).filter _)
  · have member : contextNames.contains name = true := List.contains_iff_mem.mpr promoted
    rw [Fields.lookup_data, find, member]
    rfl
  · have member : contextNames.contains name = false := by
      rw [← Bool.not_eq_true]
      exact mt List.contains_iff_mem.mp other
    rw [find, member]
    rfl

theorem sound_objectOf (binary : ∀ f ∈ fields, f.2.IsBinary) : (Entry.objectOf fields).Sound := by
  refine .object fun entry member => ?_
  obtain ⟨f, recorded, rfl⟩ := List.mem_map.mp member
  exact sound_toJson (binary f recorded)

theorem sound_entry (service time : String) (binary : ∀ f ∈ e.fields, f.2.IsBinary) :
    ((Entry.ofEvent service e).toJson (some time)).Sound := by
  have context : ∀ f ∈ (Entry.ofEvent service e).context, f.2.IsBinary := by
    intro f member
    rcases Fields.mem_put member with rfl | member
    · exact nofun
    · exact isBinary_of_mem_data binary f (List.mem_of_mem_filter member)
  have data : ∀ f ∈ (Entry.ofEvent service e).data, f.2.IsBinary :=
    fun f member => isBinary_of_mem_data binary f (List.mem_of_mem_filter member)
  refine .object fun entry member => ?_
  simp only [Option.map_some, Option.toList_some, List.cons_append, List.nil_append, List.mem_cons,
    List.not_mem_nil, or_false] at member
  rcases member with rfl | rfl | rfl | rfl | rfl | rfl
  · exact sound_objectOf context
  · exact sound_objectOf data
  · exact .text _
  · exact .text _
  · exact .text _
  · exact .text _

theorem kind_eq (level : Level) : level.kind = if level = .error then "error" else "app" := by
  cases level <;> rfl

/-- The entries of a line. None of their names comes from a field. -/
def lineEntries (service time : String) (e : Event) : List (String × Datum) :=
  [("ctx", .object (Fields.data (Entry.ofEvent service e).context)),
    ("data", .object (Fields.data (Entry.ofEvent service e).data)), ("level", .text e.level.name),
    ("msg", .text e.message), ("ts", .text time), ("type", .text e.level.kind)]

theorem datum_entry (service time : String) (e : Event) :
    ((Entry.ofEvent service e).toJson (some time)).datum = .object (lineEntries service time e) := rfl

theorem isLine (service time : String) (binary : ∀ f ∈ e.fields, f.2.IsBinary) :
    IsLine service time e (lineEntries service time e) where
  keys := by
    change List.Perm ["ctx", "data", "level", "msg", "ts", "type"] _
    decide
  time := rfl
  level := rfl
  kind := by
    rw [← kind_eq]
    rfl
  message := ⟨_, rfl, isLastMessage e⟩
  context := ⟨_, rfl, isContext service binary⟩
  data := ⟨_, rfl, isData service binary⟩

/-- The line of an event is one line and is read as an object that has all that the event has. -/
theorem jsonLine_loses_nothing (service time : String) (e : Event)
    (binary : ∀ f ∈ e.fields, f.2.IsBinary) :
    '\n' ∉ (jsonLine service time e).toList ∧
      ∃ entries, Datum.read? (jsonLine service time e ++ "\n") = some (.object entries) ∧
        IsLine service time e entries := by
  have sound := sound_entry service time binary
  constructor
  · intro member
    rw [jsonLine, Json.line, String.toList_ofList] at member
    exact absurd (Json.le_toNat_render _ sound '\n' member) (by decide)
  · refine ⟨lineEntries service time e, ?_, isLine service time binary⟩
    rw [jsonLine, Json.read?_line sound, datum_entry]

/-- An event with names that are recorded more than once, are those of parts of a line, or are the message's,
and with a text that holds a line end and quotes. -/
def crowded : Event :=
  { level := .warn
    fields := [("message", .text "first"), ("pool", .text "io"), ("service", .shown "inner"),
      ("message", .int (-9223372036854775808)), ("level", .bool true), ("pool", .int 7),
      ("ratio", .number (.ofBits 0x3fb999999999999a)), ("ratio", .number .nan),
      ("message", .shown "a\n\"b\"\\")] }

theorem crowded_loses_nothing : (∀ f ∈ crowded.fields, f.2.IsBinary) ∧
    '\n' ∉ (jsonLine "svc" "now" crowded).toList ∧
      ∃ entries, Datum.read? (jsonLine "svc" "now" crowded ++ "\n") = some (.object entries) ∧
        IsLine "svc" "now" crowded entries := by
  have binary : ∀ f ∈ crowded.fields, f.2.IsBinary := by
    intro f member x number
    simp only [crowded, List.mem_cons, List.not_mem_nil, or_false] at member
    rcases member with rfl | rfl | rfl | rfl | rfl | rfl | rfl | rfl | rfl
    all_goals cases number
    · exact ⟨_, rfl⟩
    · exact ⟨0x7ff8000000000000, by decide⟩
  exact ⟨binary, jsonLine_loses_nothing "svc" "now" crowded binary⟩

end WorkerPool.Log
