/-
# Writing and reading back

Subjects, details, requests, menus and the words they are made of are written as JSON with every
member. Read back, they are what they were. There is one exception: an action that is the
spelling of a method, but kept as a word of its own, becomes the method. No such action is ever
read, so what has been read of any JSON, however it was written there, can be written and read
again as often as one likes.

* `RoundTrips` : a type whose values come back;
* `Subject.ofJson?_toJson`, `Details.ofJson?_toJson`, `Request.ofJson?_toJson` : records;
* `MenuItem.ofJson?_toJson` : menus of any depth;
* `Json.models_round_trip` : all of them.
-/
import AccessGate.Json.Model
import AccessGate.Proofs.Nesting
import AccessGate.Proofs.Spelling
import AccessGate.Settings.Reading

namespace AccessGate

open Document

/-- Whether values come back when they are written and read: those that are sound do and no
others, and whatever has been read does. -/
structure RoundTrips {α : Type} (write : α → Json) (read? : Json → Option α) (sound : α → Prop) :
    Prop where
  written : ∀ a, read? (write a) = some a ↔ sound a
  read : ∀ j a, read? j = some a → read? (write a) = some a

/-- If all values are sound there is nothing else to show. -/
theorem RoundTrips.of_forall {α : Type} {write : α → Json} {read? : Json → Option α}
    (h : ∀ a, read? (write a) = some a) : RoundTrips write read? fun _ => True where
  written a := iff_true_intro (h a)
  read _ a _ := h a

/-! ## Words -/

/-- A value of a vocabulary is read from its spelling. -/
theorem word?_text {α : Type} [Vocabulary α] [LawfulVocabulary α] (a : α) :
    word? (Json.text (Vocabulary.name a)) = some a :=
  Vocabulary.ofName?_name a

namespace Action

/-- An action is read from its text if it is what its text is read as. -/
theorem read?_text_iff {a : Action} : read? (Json.text a.text) = some a ↔ a.IsRead := by
  change some (ofText a.text) = some a ↔ a.IsRead
  rw [Option.some.injEq, IsRead]

/-- Whatever an action is read from, it is what its text is read as. -/
theorem isRead_of_read? {δ : Type} [Document δ] {d : δ} {a : Action} (h : read? d = some a) :
    a.IsRead := by
  obtain ⟨s, -, rfl⟩ := Option.map_eq_some_iff.mp h
  exact isRead_ofText s

/-- Only a method's spelling kept as a word is not what its text is read as. -/
theorem isRead_iff_ne_named {a : Action} : a.IsRead ↔ ∀ m : Method, a ≠ named m.name := by
  cases a with
  | standard m => simp [isRead_standard]
  | named w => simp [isRead_named_iff, eq_comm (a := w)]

end Action

/-! ## Records -/

section Optional

variable {α : Type} {write : α → Json} {read? : Json → Option α} {name : String} {fs : Fields Json}

/-- What is written of an optional value, with `null` for none, is read as this value. -/
theorem optional_written (hread : ∀ a, read? (write a) = some a)
    (hnull : ∀ a, (write a).isNull = false) {a : Option α}
    (h : fs.lookup name = some (a.elim .null write)) :
    Document.optional name read? fs = some a := by
  rw [Document.optional, h]
  cases a with
  | none => rfl
  | some a =>
      change (if (write a).isNull then some none else (read? (write a)).map some) = some (some a)
      rw [hnull, hread]
      rfl

/-- An optional text is read as it was written. -/
theorem optional_text {a : Option String} (h : fs.lookup name = some (.optionalText a)) :
    Document.optional name text? fs = some a := by
  have hread : ∀ s, text? (Json.text s) = some s := fun _ => rfl
  refine optional_written hread (fun _ => rfl) ?_
  rw [h]
  cases a <;> rfl

end Optional

namespace Subject

/-- A subject comes back. -/
theorem ofJson?_toJson (s : Subject) : ofJson? s.toJson = some s := by
  let fs : Fields Json := [("id", .optionalText s.id), ("name", .text s.name)]
  have hid : Document.optional "id" text? fs = some s.id := optional_text rfl
  calc ofJson? s.toJson
    _ = (Document.optional "id" text? fs).bind fun id => some ⟨id, s.name⟩ := rfl
    _ = some s := by rw [hid]; rfl

theorem isNull_toJson (s : Subject) : s.toJson.isNull = false :=
  rfl

end Subject

namespace Details

variable {k : RecordKind}

theorem isNull_toJson (d : Details k) : d.toJson.isNull = false := by
  cases k <;> rfl

/-- Details come back. -/
theorem ofJson?_toJson (d : Details k) : ofJson? k d.toJson = some d := by
  obtain ⟨id, part⟩ := d
  cases k with
  | dag =>
      let fs : Fields Json := [("id", .optionalText id),
        ("access_entity", .optionalText (part.map DagPart.name))]
      have hid : Document.optional "id" text? fs = some id := optional_text rfl
      have hpart : Document.optional "access_entity" word? fs = some part := by
        refine optional_written word?_text (fun _ => rfl) ?_
        cases part <;> rfl
      calc ofJson? .dag (toJson ⟨id, part⟩)
        _ = (Document.optional "id" text? fs).bind fun id =>
              (Document.optional "access_entity" word? fs).bind fun part => some ⟨id, part⟩ := rfl
        _ = some ⟨id, part⟩ := by rw [hid, hpart]; rfl
  | _ =>
      -- there are no parts to be lost
      cases part with
      | none => cases id <;> rfl
      | some p => exact p.elim

end Details

namespace Request

variable {k : RecordKind}

/-- A request comes back. -/
theorem ofJson?_toJson (r : Request k) : ofJson? k r.toJson = some r := by
  obtain ⟨method, details, subject⟩ := r
  let fs : Fields Json := [("method", .text method.name),
    ("details", Details.optionalToJson details), ("subject", Subject.optionalToJson subject)]
  have hmethod : fs.required "method" word? = some method := word?_text method
  have hdetails : Document.optional "details" (Details.ofJson? k) fs = some details := by
    refine optional_written Details.ofJson?_toJson Details.isNull_toJson ?_
    cases details <;> rfl
  have hsubject : Document.optional "subject" Subject.ofJson? fs = some subject := by
    refine optional_written Subject.ofJson?_toJson Subject.isNull_toJson ?_
    cases subject <;> rfl
  calc ofJson? k (toJson ⟨method, details, subject⟩)
    _ = (fs.required "method" word?).bind fun method =>
          (Document.optional "details" (Details.ofJson? k) fs).bind fun details =>
            (Document.optional "subject" Subject.ofJson? fs).bind fun subject =>
              some ⟨method, details, subject⟩ := rfl
    _ = some ⟨method, details, subject⟩ := by rw [hmethod, hdetails, hsubject]; rfl

end Request

/-! ## Menus -/

namespace MenuItem

mutual

/-- A menu entry comes back, however many entries there are below it. -/
theorem ofJson?_toJson : ∀ item : MenuItem, ofJson? item.toJson = some item
  | mk name label href children => by
      let fs : Fields Json := [("name", .text name), ("label", .text label),
        ("href", .optionalText href), ("children", .list (listToJson children))]
      have hhref : Document.optional "href" text? fs = some href := optional_text rfl
      calc ofJson? (toJson (mk name label href children))
        _ = (Document.optional "href" text? fs).bind fun href =>
              ((listToJson children).mapM ofJson?).bind fun children =>
                some (mk name label href children) := ofJson?_eq _
        _ = some (mk name label href children) := by
              rw [hhref, mapM_listToJson children]
              rfl

/-- So do the entries of a menu. -/
theorem mapM_listToJson : ∀ items : List MenuItem, (listToJson items).mapM ofJson? = some items
  | [] => rfl
  | item :: items => by
      rw [listToJson, List.mapM_cons, ofJson?_toJson item, mapM_listToJson items]
      rfl

end

end MenuItem

/-! ## All of them -/

/-- **Whatever is written comes back.** Subjects, details, requests and menus of any depth are
read as they were written, and so are methods, resources, parts of DAGs and system views. An
action is, unless it is the spelling of a method kept as a word. What has been read of any JSON,
in whichever of the accepted forms it was there, is read again from what is written of it. -/
theorem Json.models_round_trip :
    RoundTrips Subject.toJson Subject.ofJson? (fun _ => True) ∧
      (∀ k, RoundTrips Details.toJson (Details.ofJson? k) fun _ => True) ∧
      (∀ k, RoundTrips Request.toJson (Request.ofJson? k) fun _ => True) ∧
      RoundTrips MenuItem.toJson MenuItem.ofJson? (fun _ => True) ∧
      RoundTrips (fun a => .text a.text) Action.read? (fun a => ∀ m : Method, a ≠ .named m.name) ∧
      RoundTrips (fun m => .text m.name) (Document.word? : Json → Option Method) (fun _ => True) ∧
      RoundTrips (fun r => .text r.name) (Document.word? : Json → Option Resource) (fun _ => True) ∧
      RoundTrips (fun p => .text p.name) (Document.word? : Json → Option DagPart) (fun _ => True) ∧
      RoundTrips (fun v => .text v.name) (Document.word? : Json → Option SystemView)
        (fun _ => True) := by
  refine ⟨.of_forall Subject.ofJson?_toJson, fun k => .of_forall Details.ofJson?_toJson,
    fun k => .of_forall Request.ofJson?_toJson, .of_forall MenuItem.ofJson?_toJson, ?_,
    .of_forall word?_text, .of_forall word?_text, .of_forall word?_text, .of_forall word?_text⟩
  refine ⟨?_, ?_⟩
  · intro a
    rw [Action.read?_text_iff, Action.isRead_iff_ne_named]
  · intro j a hread
    exact Action.read?_text_iff.mpr (Action.isRead_of_read? hread)

end AccessGate
