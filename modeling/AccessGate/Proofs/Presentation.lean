/-
# Presentation

One value can be written in many ways. What it is read as does not depend on the order of the
members of any object inside it, and a record inside it may as well be the list of its values.
A member that is not known is no part of a request or a menu, and there it may stand anywhere.
The configuration is strict: there it spoils the whole, and so does a known member that stands
there twice, in any record at all.

* `Json.Reordered` : members of one object inside a value in another order;
* `Readable.Within` : a change to one record inside a value;
* `Record.Positional`, `Record.GainsUnknown`, `Record.RepeatsKnown` : the changes;
* `Json.Reordered.alike`, `Readable.Within.alike`, `Readable.Within.fails` : what is kept on the
  way from the record up to the whole;
* `Readable.read?_presentation` : what each of the changes comes to.
-/
import AccessGate.Proofs.Readable

namespace AccessGate

open Document

/-! ## Changes to a value -/

/-- Whether two values differ in nothing but the order of members, in one object inside them. -/
inductive Json.Reordered : Json → Json → Prop where
  | here {ms ms' : List (String × Json)} : ms.Perm ms' → Reordered (.object ms) (.object ms')
  | item {front behind : List Json} {v v' : Json} :
      Reordered v v' → Reordered (.list (front ++ v :: behind)) (.list (front ++ v' :: behind))
  | member {front behind : List (String × Json)} {name : String} {v v' : Json} :
      Reordered v v' →
        Reordered (.object (front ++ (name, v) :: behind)) (.object (front ++ (name, v') :: behind))

/-- Whether two values of a type differ in nothing but one record inside them, and this by the
given change. Records stand inside lists, under the names of members and at their positions. -/
inductive Readable.Within (change : Record → Json → Json → Prop) :
    Readable → Json → Json → Prop where
  | here {r : Record} {j j' : Json} : change r j j' → Within change (.record r) j j'
  | item {t : Readable} {front behind : List Json} {v v' : Json} :
      Within change t v v' →
        Within change (.list t) (.list (front ++ v :: behind)) (.list (front ++ v' :: behind))
  | member {r : Record} {name : String} {t : Readable} {front behind : List (String × Json)}
      {v v' : Json} :
      (name, t) ∈ r.members → Within change t v v' →
        Within change (.record r) (.object (front ++ (name, v) :: behind))
          (.object (front ++ (name, v') :: behind))
  | field {r : Record} {name : String} {t : Readable} {front behind : List Json} {v v' : Json} :
      r.members[front.length]? = some (name, t) → Within change t v v' →
        Within change (.record r) (.list (front ++ v :: behind)) (.list (front ++ v' :: behind))

namespace Record

/-- A record is given by position: as the list of the values of its members in declaration order.
The members that the object does not have are left off at the end. -/
def Positional (r : Record) (j j' : Json) : Prop :=
  ∃ ms vs, ms.Perm (r.names.zip vs) ∧ vs.length ≤ r.names.length ∧ j = .object ms ∧ j' = .list vs

/-- A record gains a member under a name that it does not know. -/
def GainsUnknown (r : Record) (j j' : Json) : Prop :=
  ∃ front name v behind, name ∉ r.names ∧ j = .object (front ++ behind) ∧
    j' = .object (front ++ (name, v) :: behind)

/-- A record gains a known member that it has already. -/
def RepeatsKnown (r : Record) (j j' : Json) : Prop :=
  ∃ front name v behind, name ∈ r.names ∧ name ∈ (front ++ behind).map (·.1) ∧
    j = .object (front ++ behind) ∧ j' = .object (front ++ (name, v) :: behind)

end Record

/-! ## Another order of members -/

/-- Whether two values are the same where a single text, number or word is looked for. -/
structure Json.LookAlike (j j' : Json) : Prop where
  isNull : j.isNull = j'.isNull
  text? : j.text? = j'.text?
  int? : j.int? = j'.int?
  nat? : j.nat? = j'.nat?
  name? : j.name? = j'.name?

/-- What gives the same name is the same value of every vocabulary. -/
theorem word?_congr {α : Type} [Vocabulary α] {j j' : Json} (h : j.name? = j'.name?) :
    (word? j : Option α) = word? j' := by
  change j.name?.bind Vocabulary.ofName? = j'.name?.bind Vocabulary.ofName?
  rw [h]

/-- It is left to compare them as records and as lists. -/
theorem Json.LookAlike.alike {j j' : Json} (h : j.LookAlike j')
    (hrecord : ∀ r : Record, r.read? j = r.read? j')
    (hlist : ∀ t : Readable, list? t.read? j = list? t.read? j') (t : Readable) : t.Alike j j' := by
  refine ⟨h.isNull, ?_⟩
  cases t with
  | text => exact h.text?
  | action => exact congrArg (·.map Action.ofText) h.text?
  | priority => exact congrArg (·.filter priorityRange) h.int?
  | timeout => exact congrArg (·.filter timeoutRange) h.nat?
  | method | resource | dagPart | systemView | mode => exact word?_congr h.name?
  | record r => exact hrecord r
  | list t => exact hlist t

/-- When an object gives a name. -/
theorem Json.name?_object_eq_some_iff {ms : List (String × Json)} {s : String} :
    (object ms).name? = some s ↔ ms = [(s, .null)] := by
  constructor
  · intro h
    unfold name? at h
    split at h
    · contradiction
    · rename_i hms
      cases hms
      cases h
      rfl
    · contradiction
  · rintro rfl
    rfl

namespace Json.Reordered

variable {j j' : Json}

/-- Only objects and lists can be reordered. -/
theorem ne_null (h : j.Reordered j') : j ≠ .null ∧ j' ≠ .null := by
  cases h <;> exact ⟨nofun, nofun⟩

/-- An object that gives a name has one member, and it is `null`: there is no other order of its
members, nor of anything below. -/
theorem name?_eq (h : j.Reordered j') : j.name? = j'.name? := by
  apply Option.ext
  intro s
  cases h with
  | here hperm =>
      rw [name?_object_eq_some_iff, name?_object_eq_some_iff, ← List.perm_singleton,
        ← List.perm_singleton]
      exact ⟨hperm.symm.trans, hperm.trans⟩
  | item _ => exact Iff.rfl
  | member hv =>
      rw [name?_object_eq_some_iff, name?_object_eq_some_iff]
      simp [List.append_eq_singleton_iff, hv.ne_null]

theorem lookAlike (h : j.Reordered j') : j.LookAlike j' := by
  have hname : j.name? = j'.name? := h.name?_eq
  cases h <;> exact ⟨rfl, rfl, rfl, rfl, hname⟩

/-- **The order of the members of an object does not matter**, wherever the object is. -/
theorem alike (h : j.Reordered j') (t : Readable) : t.Alike j j' := by
  -- by induction on the way down to the object, for all types at once
  induction h generalizing t with
  | here hperm =>
      refine (lookAlike (.here hperm)).alike ?_ (fun _ => rfl) t
      intro r
      apply Record.read?_congr
      refine rel_mono (Fields.rel_ofMembers?_perm hperm) ?_
      intro fs fs' hfs
      refine hfs.mono ?_
      rintro name v _ rfl u -
      exact .refl u v
  | @item front behind v v' hv ih =>
      refine (lookAlike (.item hv)).alike ?_ (fun u => mapM_replace (ih u).read?) t
      intro r
      cases hpos : r.members[front.length]? with
      | none =>
          have hlength : r.names.length ≤ front.length := by
            rwa [Record.names, List.length_map, ← List.getElem?_eq_none_iff]
          rw [Record.read?_list_eq_none, Record.read?_list_eq_none] <;> simp <;> omega
      | some m => exact Record.read?_field hpos (ih m.2)
  | @member front behind name v v' hv ih =>
      refine (lookAlike (.member hv)).alike ?_ (fun _ => rfl) t
      intro r
      by_cases hname : name ∈ r.names
      · obtain ⟨⟨_, u⟩, hmem, rfl⟩ := List.mem_map.mp hname
        exact Record.read?_member hmem (ih u)
      · exact Record.read?_member_unknown hname

end Json.Reordered

/-! ## From a record up to the whole -/

namespace Readable

/-- Whether a value is there and cannot be read. -/
structure Fails (t : Readable) (v : Json) : Prop where
  isNull : v.isNull = false
  read? : t.read? v = none

namespace Within

variable {change : Record → Json → Json → Prop} {t : Readable} {j j' : Json}

/-- If a record is read as before, so is the whole. -/
theorem alike (hchange : ∀ r j j', change r j j' → (Readable.record r).Alike j j')
    (h : t.Within change j j') : t.Alike j j' := by
  induction h with
  | here hj => exact hchange _ _ _ hj
  | item _ ih => exact ⟨rfl, mapM_replace ih.read?⟩
  | member hname _ ih => exact ⟨rfl, Record.read?_member hname ih⟩
  | field hpos _ ih => exact ⟨rfl, Record.read?_field hpos ih⟩

/-- If a record cannot be read, neither can the whole. -/
theorem fails (hchange : ∀ r j j', change r j j' → (Readable.record r).Fails j')
    (h : t.Within change j j') : t.Fails j' := by
  induction h with
  | here hj => exact hchange _ _ _ hj
  | item _ ih => exact ⟨rfl, mapM_eq_none ih.read?⟩
  | member hname _ ih => exact ⟨rfl, Record.read?_misread_member hname ih.isNull ih.read? (by simp)⟩
  | field hpos _ ih => exact ⟨rfl, Record.read?_misread_field hpos ih.isNull ih.read?⟩

end Within

end Readable

/-! ## Changes to a record -/

namespace Record

variable {r : Record} {j j' : Json}

/-- By position a record is what it is by name. -/
theorem Positional.alike (h : r.Positional j j') : (Readable.record r).Alike j j' := by
  obtain ⟨ms, vs, hperm, hlength, rfl, rfl⟩ := h
  have horder : r.read? (.object ms) = r.read? (.object (r.names.zip vs)) :=
    ((Json.Reordered.here hperm).alike (.record r)).read?
  refine ⟨rfl, ?_⟩
  calc r.read? (.object ms)
    _ = r.read? (.object (r.names.zip vs)) := horder
    _ = r.read? (.list vs) := (read?_list hlength).symm

/-- A member that is not known is ignored. -/
theorem GainsUnknown.alike (h : r.GainsUnknown j j') (hr : r.unknown = .ignored) :
    (Readable.record r).Alike j j' := by
  obtain ⟨front, name, v, behind, hname, rfl, rfl⟩ := h
  refine ⟨rfl, read?_congr_of_eq ?_⟩
  rw [hr]
  exact (Fields.ofMembers?_insert_ignored hname).symm

/-- In the configuration it is refused. -/
theorem GainsUnknown.fails (h : r.GainsUnknown j j') (hr : r.unknown = .refused) :
    (Readable.record r).Fails j' := by
  obtain ⟨front, name, v, behind, hname, rfl, rfl⟩ := h
  refine ⟨rfl, read?_eq_none_of_fields? ?_⟩
  rw [hr]
  exact Fields.ofMembers?_insert_refused hname

/-- A known member is refused if it is there already. -/
theorem RepeatsKnown.fails (h : r.RepeatsKnown j j') : (Readable.record r).Fails j' := by
  obtain ⟨front, name, v, behind, hname, hmem, rfl, rfl⟩ := h
  exact ⟨rfl, read?_eq_none_of_fields? (Fields.ofMembers?_insert_repeated hname hmem)⟩

end Record

/-! ## What a change comes to -/

/-- **What is read is what is said, however it is written, and the configuration is strict at
every depth.** Members can be put in another order in any object, and a record at any depth can be
given by position: nothing else is read then. A request or a menu may have members that are not
known. But in the configuration there can be none, at any depth, and a known member can be
repeated nowhere: with one record the whole is refused. -/
theorem Readable.read?_presentation (t : Readable) (j j' : Json) :
    (j.Reordered j' → t.read? j = t.read? j') ∧
      (t.Within Record.Positional j j' → t.read? j = t.read? j') ∧
      (t.Within (fun r v v' => r.unknown = .ignored ∧ r.GainsUnknown v v') j j' →
        t.read? j = t.read? j') ∧
      (t.Within (fun r v v' => r.unknown = .refused ∧ r.GainsUnknown v v') j j' →
        t.read? j' = none) ∧
      (t.Within Record.RepeatsKnown j j' → t.read? j' = none) := by
  refine ⟨fun h => (h.alike t).read?, fun h => (h.alike ?_).read?, fun h => (h.alike ?_).read?,
    fun h => (h.fails ?_).read?, fun h => (h.fails ?_).read?⟩
  · intro r v v' hv
    exact hv.alike
  · rintro r v v' ⟨hr, hv⟩
    exact hv.alike hr
  · rintro r v v' ⟨hr, hv⟩
    exact hv.fails hr
  · intro r v v' hv
    exact hv.fails

/-- A request by a subject with the given members. -/
def Request.bySubject (ms : List (String × Json)) : Json :=
  .object [("method", .text "GET"), ("subject", .object ms)]

/-- A configuration with one grant for one subject. -/
def AppSettings.withGrant (grant : Json) : Json :=
  .object [("static_auth_plugin",
    .object [("subjects", .list [.object [("name", .text "alice"), ("grants", .list [grant])]])])]

/-- The members of a grant for one DAG. -/
def GrantSettings.onEtl : List (String × Json) :=
  [("resource", .text "dag"), ("methods", .list [.text "GET"]), ("id", .text "etl")]

/-- The subject of a request is inside the request. -/
theorem Readable.within_bySubject {change : Record → Json → Json → Prop}
    {ms ms' : List (String × Json)} (h : change .subject (.object ms) (.object ms')) :
    (Readable.record (.request .dag)).Within change (Request.bySubject ms)
      (Request.bySubject ms') :=
  @Within.member _ (.request .dag) _ (.record .subject) [("method", .text "GET")] [] _ _
    (by simp [Record.members]) (.here h)

/-- A grant is at the bottom of the configuration. -/
theorem Readable.within_withGrant {change : Record → Json → Json → Prop} {grant grant' : Json}
    (h : change .grantSettings grant grant') :
    (Readable.record .appSettings).Within change (AppSettings.withGrant grant)
      (AppSettings.withGrant grant') :=
  @Within.member _ .appSettings _ (.record .staticSettings) [] [] _ _ (by simp [Record.members]) <|
    @Within.member _ .staticSettings _ (.list (.record .subjectSettings)) [] [] _ _
      (by simp [Record.members]) <|
    @Within.item _ _ [] [] _ _ <|
    @Within.member _ .subjectSettings _ (.list (.record .grantSettings))
      [("name", .text "alice")] [] _ _ (by simp [Record.members]) <|
    @Within.item _ _ [] [] _ _ <|
    .here h

/-- A request may have its members in another order, and a subject with a role. A grant may be a
list. But if it has a restriction that is misspelt, or one that is there twice, then there is no
configuration with this grant. -/
theorem Readable.read?_withGrant :
    Request.ofJson? .dag (Request.bySubject [("name", .text "alice")]) =
      some ⟨.get, none, some (.withoutId "alice")⟩ ∧
    Request.ofJson? .dag (Request.bySubject [("name", .text "alice")]) =
      Request.ofJson? .dag
        (.object [("subject", .object [("name", .text "alice")]), ("method", .text "GET")]) ∧
    AppSettings.read? (AppSettings.withGrant (.object GrantSettings.onEtl)) =
      some { static := { subjects := [⟨"alice", none,
        [⟨.record .dag, [.standard .get], some "etl", none⟩]⟩] } } ∧
    AppSettings.read? (AppSettings.withGrant (.object GrantSettings.onEtl)) =
      AppSettings.read? (AppSettings.withGrant
        (.list [.text "dag", .list [.text "GET"], .text "etl"])) ∧
    Request.ofJson? .dag (Request.bySubject [("name", .text "alice")]) =
      Request.ofJson? .dag
        (Request.bySubject ([("name", .text "alice")] ++ ("role", .text "admin") :: [])) ∧
    AppSettings.read? (AppSettings.withGrant
      (.object (GrantSettings.onEtl ++ ("acces_entity", .text "run") :: []))) = none ∧
    AppSettings.read? (AppSettings.withGrant
      (.object (GrantSettings.onEtl ++ ("id", .text "etl") :: []))) = none := by
  have hposition : Record.Positional .grantSettings (.object GrantSettings.onEtl)
      (.list [.text "dag", .list [.text "GET"], .text "etl"]) :=
    ⟨_, _, .refl _, by decide, rfl, rfl⟩
  have hrole : Record.GainsUnknown .subject (.object [("name", .text "alice")])
      (.object ([("name", .text "alice")] ++ ("role", .text "admin") :: [])) :=
    ⟨_, _, _, _, by decide, rfl, rfl⟩
  have hmisspelt : Record.GainsUnknown .grantSettings (.object (GrantSettings.onEtl ++ []))
      (.object (GrantSettings.onEtl ++ ("acces_entity", .text "run") :: [])) :=
    ⟨_, _, _, _, by decide, rfl, rfl⟩
  have htwice : Record.RepeatsKnown .grantSettings (.object (GrantSettings.onEtl ++ []))
      (.object (GrantSettings.onEtl ++ ("id", .text "etl") :: [])) :=
    ⟨_, _, _, _, by decide, by decide, rfl, rfl⟩
  exact ⟨by rfl, (read?_presentation (.record (.request .dag)) _ _).1 (.here (.swap _ _ _)),
    by rfl, (read?_presentation (.record .appSettings) _ _).2.1 (within_withGrant hposition),
    (read?_presentation (.record (.request .dag)) _ _).2.2.1 (within_bySubject ⟨rfl, hrole⟩),
    (read?_presentation (.record .appSettings) _ _).2.2.2.1 (within_withGrant ⟨rfl, hmisspelt⟩),
    (read?_presentation (.record .appSettings) _ _).2.2.2.2 (within_withGrant htwice)⟩

end AccessGate
