/-
# Types that are read from JSON

Everything that is read from JSON is a text, a number, a word of some vocabulary, a list, or a
record. A record is read in two steps: it is sorted out, and then its members are read by name,
each by itself. What it comes to therefore depends on nothing but what its known members are read
as, and if one of them is there and cannot be read, then the record cannot be read either.

* `Record`, `Record.members`, `Record.read?` : the records, their members in declaration order,
  and how they are read;
* `Readable`, `Readable.read?` : all types;
* `Reads` : reading members by name, each by itself;
* `Record.exists_reads` : this is how every record is read;
* `Record.read?_congr`, `Record.read?_eq_none` : what follows for a record.
-/
import AccessGate.Json.Model
import AccessGate.Proofs.Nesting
import AccessGate.Settings.Reading

namespace AccessGate

open Document

/-! ## The types -/

/-- The records: what requests and menus are made of, and the sections of the configuration. -/
inductive Record where
  | subject
  | details (kind : RecordKind)
  | request (kind : RecordKind)
  | menuItem
  | grantSettings
  | subjectSettings
  | staticSettings
  | gatewaySettings
  | loggingSettings
  | appSettings

namespace Record

/-- What a record is read as. -/
@[reducible] def Value : Record → Type
  | subject => Subject
  | details k => Details k
  | request k => Request k
  | menuItem => MenuItem
  | grantSettings => GrantSettings
  | subjectSettings => SubjectSettings
  | staticSettings => StaticSettings
  | gatewaySettings => GatewaySettings
  | loggingSettings => LoggingSettings
  | appSettings => AppSettings

/-- How a record is read. -/
def read? : (r : Record) → Json → Option r.Value
  | subject => Subject.ofJson?
  | details k => Details.ofJson? k
  | request k => Request.ofJson? k
  | menuItem => MenuItem.ofJson?
  | grantSettings => GrantSettings.read?
  | subjectSettings => SubjectSettings.read?
  | staticSettings => StaticSettings.read?
  | gatewaySettings => GatewaySettings.read?
  | loggingSettings => LoggingSettings.read?
  | appSettings => AppSettings.read?

/-- What becomes of members that a record does not know. The sections of the configuration are
strict. -/
def unknown : Record → Unknown
  | subject | details _ | request _ | menuItem => .ignored
  | grantSettings | subjectSettings | staticSettings | gatewaySettings | loggingSettings
  | appSettings => .refused

end Record

/-- The types that values are read as. -/
inductive Readable where
  | text
  | action
  | priority
  | timeout
  | method
  | resource
  | dagPart
  | systemView
  | mode
  | record (r : Record)
  | list (item : Readable)

namespace Readable

/-- The values of a type. -/
@[reducible] def Value : Readable → Type
  | text => String
  | action => Action
  | priority => Int
  | timeout => Nat
  | method => Method
  | resource => Resource
  | dagPart => DagPart
  | systemView => SystemView
  | mode => Mode
  | record r => r.Value
  | list t => List t.Value

/-- How a value is read. -/
def read? : (t : Readable) → Json → Option t.Value
  | text => text?
  | action => Action.read?
  | priority => priority?
  | timeout => timeout?
  | method => word?
  | resource => word?
  | dagPart => word?
  | systemView => word?
  | mode => word?
  | record r => r.read?
  | list t => list? t.read?

/-- Whether two values are read alike: as the same, or neither of them. Where one stands for no
value, so does the other. -/
structure Alike (t : Readable) (v v' : Json) : Prop where
  isNull : v.isNull = v'.isNull
  read? : t.read? v = t.read? v'

theorem Alike.refl (t : Readable) (v : Json) : t.Alike v v :=
  ⟨rfl, rfl⟩

end Readable

namespace Record

/-- The members of a record with their types, in declaration order. -/
def members : Record → List (String × Readable)
  | subject => [("id", .text), ("name", .text)]
  | details .dag => [("id", .text), ("access_entity", .dagPart)]
  | details k => [(k.idField, .text)]
  | request k =>
      [("method", .method), ("details", .record (details k)), ("subject", .record subject)]
  | menuItem =>
      [("name", .text), ("label", .text), ("href", .text), ("children", .list (.record menuItem))]
  | grantSettings =>
      [("resource", .resource), ("methods", .list .action), ("id", .text),
        ("access_entity", .dagPart)]
  | subjectSettings => [("name", .text), ("id", .text), ("grants", .list (.record grantSettings))]
  | staticSettings =>
      [("vendor", .text), ("priority", .priority), ("mode", .mode), ("signed_in", .text),
        ("subjects", .list (.record subjectSettings)), ("dag_ids", .list .text)]
  | gatewaySettings => [("vendor", .text), ("decision_timeout_ms", .timeout)]
  | loggingSettings => [("level", .text)]
  | appSettings =>
      [("logging", .record loggingSettings), ("auth_manager", .record gatewaySettings),
        ("static_auth_plugin", .record staticSettings)]

/-- The names that a record knows. -/
def names (r : Record) : List String :=
  r.members.map (·.1)

/-- No two members of a record have one name. -/
theorem nodup_names (r : Record) : r.names.Nodup := by
  cases r with
  | details k => cases k <;> decide
  | request k =>
      change ["method", "details", "subject"].Nodup
      decide
  | _ => decide

/-- So a name has one type. -/
theorem type_unique {r : Record} {name : String} {t t' : Readable} (h : (name, t) ∈ r.members)
    (h' : (name, t') ∈ r.members) : t = t' :=
  congrArg Prod.snd (List.inj_on_of_nodup_map r.nodup_names h h' rfl)

end Record

/-! ## Reading members by name -/

/-- Whether two records have their members alike, as far as they are among `ms`. -/
def AlikeIn (ms : List (String × Readable)) : Fields Json → Fields Json → Prop :=
  Fields.Alike fun name v v' => ∀ t, (name, t) ∈ ms → t.Alike v v'

/-- Whether a reader of records reads the members `ms` by name, each by itself: what it comes to
depends on what these are read as, and it comes to nothing where one of them is there and cannot
be read. -/
structure Reads (ms : List (String × Readable)) {α : Type} (read : Fields Json → Option α) :
    Prop where
  congr : ∀ {fs fs'}, AlikeIn ms fs fs' → read fs = read fs'
  misread : ∀ {fs : Fields Json} {name t v}, (name, t) ∈ ms → fs.lookup name = some v →
    v.isNull = false → t.read? v = none → read fs = none

namespace Reads

variable {α β : Type} {m : String × Readable} {ms : List (String × Readable)}

/-- A reader of one member sees what is found under its name. -/
theorem single {name : String} {t : Readable} {read : Fields Json → Option α} {o : Option α}
    {f : Json → Option α} (hread : ∀ fs, read fs = (fs.lookup name).elim o f)
    (hcongr : ∀ v v', t.Alike v v' → f v = f v')
    (hmisread : ∀ v : Json, v.isNull = false → t.read? v = none → f v = none) :
    Reads [(name, t)] read where
  congr {fs fs'} h := by
    have hname := h name
    rw [hread, hread]
    generalize fs.lookup name = found, fs'.lookup name = found' at hname
    cases hname with
    | none => rfl
    | some hv => exact hcongr _ _ (hv t List.mem_cons_self)
  misread {fs _ _ v} hmem hv hnull hmiss := by
    cases List.mem_singleton.mp hmem
    rw [hread, hv]
    exact hmisread v hnull hmiss

/-- A member that has to be there. -/
theorem required (name : String) (t : Readable) :
    Reads [(name, t)] fun fs => fs.required name t.read? := by
  refine single (o := none) (f := t.read?) ?_ (fun _ _ h => h.read?) fun _ _ h => h
  intro fs
  rw [Fields.required]
  cases fs.lookup name <;> rfl

/-- A member that may be missing or null. -/
theorem optional (name : String) (t : Readable) :
    Reads [(name, t)] fun fs => Document.optional name t.read? fs := by
  refine single (o := some none)
    (f := fun v => if v.isNull then some none else (t.read? v).map some) ?_ ?_ ?_
  · intro fs
    rw [Document.optional]
    cases fs.lookup name <;> rfl
  · intro v v' h
    rw [h.isNull, h.read?]
  · intro v hnull hmiss
    rw [hnull, hmiss]
    rfl

/-- A member with a default. -/
theorem orDefault (name : String) (t : Readable) (default : t.Value) :
    Reads [(name, t)] fun fs => fs.orDefault name default t.read? := by
  refine single (o := some default) (f := t.read?) ?_ (fun _ _ h => h.read?) fun _ _ h => h
  intro fs
  rw [Fields.orDefault]
  cases fs.lookup name <;> rfl

/-- With all members read the record is. -/
theorem done (a : α) : Reads [] fun _ => some a where
  congr _ := rfl
  misread h := absurd h List.not_mem_nil

/-- One member after the other. -/
theorem cons {f : Fields Json → Option α} {g : α → Fields Json → Option β} (hf : Reads [m] f)
    (hg : ∀ a, Reads ms (g a)) : Reads (m :: ms) fun fs => (f fs).bind fun a => g a fs where
  congr {fs fs'} h := by
    have hfirst : f fs = f fs' := hf.congr <| h.mono fun _ _ _ hv t ht =>
      hv t (List.mem_cons.mpr (.inl (List.mem_singleton.mp ht)))
    have hrest : ∀ a, g a fs = g a fs' := fun a => (hg a).congr <| h.mono fun _ _ _ hv t ht =>
      hv t (List.mem_cons_of_mem m ht)
    simp only [hfirst, hrest]
  misread {fs _ _ _} hmem hv hnull hread := by
    rcases List.mem_cons.mp hmem with rfl | hmem
    · have hfirst : f fs = none := hf.misread List.mem_cons_self hv hnull hread
      rw [hfirst]
      rfl
    · have hrest : ∀ a, g a fs = none := fun a => (hg a).misread hmem hv hnull hread
      simp [hrest]

end Reads

/-! ## How records are read -/

namespace Record

/-- **A record is read by sorting it out and reading its members by name**, each by itself. -/
theorem exists_reads (r : Record) :
    ∃ build, Reads r.members build ∧
      ∀ j, r.read? j = (Json.fields? r.unknown r.names j).bind build := by
  cases r with
  | subject =>
      exact ⟨_, (Reads.optional "id" .text).cons fun _ =>
        (Reads.required "name" .text).cons fun _ => .done _, fun _ => rfl⟩
  | details k =>
      cases k with
      | dag =>
          exact ⟨_, (Reads.optional "id" .text).cons fun _ =>
            (Reads.optional "access_entity" .dagPart).cons fun _ => .done _, fun _ => rfl⟩
      | _ => exact ⟨_, (Reads.optional _ .text).cons fun _ => .done _, fun _ => rfl⟩
  | request k =>
      exact ⟨_, (Reads.required "method" .method).cons fun _ =>
        (Reads.optional "details" (.record (details k))).cons fun _ =>
          (Reads.optional "subject" (.record subject)).cons fun _ => .done _, fun _ => rfl⟩
  | menuItem =>
      exact ⟨_, (Reads.required "name" .text).cons fun _ =>
        (Reads.required "label" .text).cons fun _ =>
          (Reads.optional "href" .text).cons fun _ =>
            (Reads.orDefault "children" (.list (.record menuItem)) []).cons fun _ => .done _,
        MenuItem.ofJson?_eq⟩
  | grantSettings =>
      exact ⟨_, (Reads.required "resource" .resource).cons fun _ =>
        (Reads.required "methods" (.list .action)).cons fun _ =>
          (Reads.optional "id" .text).cons fun _ =>
            (Reads.optional "access_entity" .dagPart).cons fun _ => .done _, fun _ => rfl⟩
  | subjectSettings =>
      exact ⟨_, (Reads.required "name" .text).cons fun _ =>
        (Reads.optional "id" .text).cons fun _ =>
          (Reads.orDefault "grants" (.list (.record grantSettings)) []).cons fun _ => .done _,
        fun _ => rfl⟩
  | staticSettings =>
      exact ⟨_, (Reads.orDefault "vendor" .text _).cons fun _ =>
        (Reads.orDefault "priority" .priority _).cons fun _ =>
          (Reads.orDefault "mode" .mode _).cons fun _ =>
            (Reads.optional "signed_in" .text).cons fun _ =>
              (Reads.orDefault "subjects" (.list (.record subjectSettings)) []).cons fun _ =>
                (Reads.orDefault "dag_ids" (.list .text) []).cons fun _ => .done _,
        fun _ => rfl⟩
  | gatewaySettings =>
      exact ⟨_, (Reads.orDefault "vendor" .text _).cons fun _ =>
        (Reads.optional "decision_timeout_ms" .timeout).cons fun _ => .done _, fun _ => rfl⟩
  | loggingSettings =>
      exact ⟨_, (Reads.orDefault "level" .text _).cons fun _ => .done _, fun _ => rfl⟩
  | appSettings =>
      exact ⟨_, (Reads.orDefault "logging" (.record loggingSettings) _).cons fun _ =>
        (Reads.orDefault "auth_manager" (.record gatewaySettings) _).cons fun _ =>
          (Reads.orDefault "static_auth_plugin" (.record staticSettings) _).cons fun _ => .done _,
        fun _ => rfl⟩

variable {r : Record} {j j' v v' : Json} {name : String} {t : Readable}
  {vs front behind : List Json} {ms : List (String × Json)}

/-- Records whose members are alike are read alike. -/
theorem read?_congr (h : Option.Rel (AlikeIn r.members) (Json.fields? r.unknown r.names j)
    (Json.fields? r.unknown r.names j')) : r.read? j = r.read? j' := by
  obtain ⟨build, hbuild, hread⟩ := r.exists_reads
  rw [hread, hread]
  generalize Json.fields? r.unknown r.names j = found at h ⊢
  generalize Json.fields? r.unknown r.names j' = found' at h ⊢
  cases h with
  | none => rfl
  | some hfs => exact hbuild.congr hfs

/-- Records that are the same once they are sorted out are read alike. -/
theorem read?_congr_of_eq
    (h : Json.fields? r.unknown r.names j = Json.fields? r.unknown r.names j') :
    r.read? j = r.read? j' := by
  obtain ⟨build, -, hread⟩ := r.exists_reads
  rw [hread, hread, h]

/-- A record that cannot be sorted out cannot be read. -/
theorem read?_eq_none_of_fields? (h : Json.fields? r.unknown r.names j = none) :
    r.read? j = none := by
  obtain ⟨build, -, hread⟩ := r.exists_reads
  rw [hread, h]
  rfl

/-- A record cannot be read if one of its members is there and cannot be read. -/
theorem read?_misread_member (hname : (name, t) ∈ r.members) (hnull : v.isNull = false)
    (hread : t.read? v = none) (hmem : (name, v) ∈ ms) : r.read? (.object ms) = none := by
  obtain ⟨build, hbuild, heq⟩ := r.exists_reads
  rw [heq]
  change (Fields.ofMembers? r.unknown r.names ms).bind build = none
  cases hfs : Fields.ofMembers? r.unknown r.names ms with
  | none => rfl
  | some fs =>
      have hlookup : fs.lookup name = some v :=
        Fields.lookup_of_ofMembers? hfs hmem (List.mem_map_of_mem (f := (·.1)) hname)
      exact hbuild.misread hname hlookup hnull hread

/-! ## Members by position -/

/-- A record given by position is the record with these values under its names. -/
theorem read?_list (h : vs.length ≤ r.names.length) :
    r.read? (.list vs) = r.read? (.object (r.names.zip vs)) :=
  read?_congr_of_eq (Fields.ofItems?_eq_ofMembers? r.nodup_names h)

/-- With more values than members it is none. -/
theorem read?_list_eq_none (h : r.names.length < vs.length) : r.read? (.list vs) = none :=
  read?_eq_none_of_fields? (Fields.ofItems?_eq_none h)

/-- The value at the position of a member is its value. -/
theorem zip_names (h : r.members[front.length]? = some (name, t)) (behind : List Json) :
    ∃ before after, ∀ v, r.names.zip (front ++ v :: behind) = before ++ (name, v) :: after := by
  obtain ⟨hlt, hget⟩ := List.getElem?_eq_some_iff.mp h
  have hlength : (r.names.take front.length).length = front.length := by
    rw [List.length_take, names, List.length_map]
    omega
  have hnames : r.names = r.names.take front.length ++ name :: r.names.drop (front.length + 1) := by
    have hlt' : front.length < r.names.length := by rwa [names, List.length_map]
    have hname : r.names.get ⟨front.length, hlt'⟩ = name := by
      simp only [names, List.get_eq_getElem, List.getElem_map, hget]
    rw [← hname, List.get_eq_getElem, List.getElem_cons_drop, List.take_append_drop]
  refine ⟨(r.names.take front.length).zip front, (r.names.drop (front.length + 1)).zip behind, ?_⟩
  intro v
  conv_lhs => rw [hnames]
  rw [List.zip_append hlength, List.zip_cons_cons]

/-! ## Another value in the place of a member's -/

/-- If the values are alike, the records are. -/
theorem read?_member (hname : (name, t) ∈ r.members) (h : t.Alike v v')
    {front behind : Fields Json} :
    r.read? (.object (front ++ (name, v) :: behind)) =
      r.read? (.object (front ++ (name, v') :: behind)) := by
  apply read?_congr
  have hmem : name ∈ r.names := List.mem_map_of_mem (f := (·.1)) hname
  refine rel_mono (Fields.rel_ofMembers?_replace hmem) ?_
  intro fs fs' hfs
  refine hfs.mono ?_
  rintro k w w' hw u hu
  rcases hw with rfl | ⟨rfl, rfl, rfl⟩
  · exact .refl u w
  · rwa [type_unique hu hname]

/-- A value that nothing is read from makes no difference. -/
theorem read?_member_unknown (hname : name ∉ r.names) {front behind : Fields Json} :
    r.read? (.object (front ++ (name, v) :: behind)) =
      r.read? (.object (front ++ (name, v') :: behind)) :=
  read?_congr_of_eq (Fields.ofMembers?_replace_unknown hname)

/-- The same by position. -/
theorem read?_field (hpos : r.members[front.length]? = some (name, t)) (h : t.Alike v v') :
    r.read? (.list (front ++ v :: behind)) = r.read? (.list (front ++ v' :: behind)) := by
  by_cases hlength : (front ++ v :: behind).length ≤ r.names.length
  · have hlength' : (front ++ v' :: behind).length ≤ r.names.length := by simpa using hlength
    obtain ⟨before, after, hzip⟩ := zip_names hpos behind
    rw [read?_list hlength, read?_list hlength', hzip, hzip]
    exact read?_member (List.mem_of_getElem? hpos) h
  · have hlength' : ¬(front ++ v' :: behind).length ≤ r.names.length := by simpa using hlength
    rw [read?_list_eq_none (Nat.lt_of_not_le hlength),
      read?_list_eq_none (Nat.lt_of_not_le hlength')]

/-- A record given by position cannot be read if one of its values cannot be read. -/
theorem read?_misread_field (hpos : r.members[front.length]? = some (name, t))
    (hnull : v.isNull = false) (hread : t.read? v = none) :
    r.read? (.list (front ++ v :: behind)) = none := by
  by_cases hlength : (front ++ v :: behind).length ≤ r.names.length
  · obtain ⟨before, after, hzip⟩ := zip_names hpos behind
    rw [read?_list hlength, hzip]
    exact read?_misread_member (List.mem_of_getElem? hpos) hnull hread (by simp)
  · exact read?_list_eq_none (Nat.lt_of_not_le hlength)

end Record

end AccessGate
