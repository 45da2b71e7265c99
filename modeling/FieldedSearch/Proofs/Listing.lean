-- SUMMARY: When the records that are made of hits have the ids of the hits.
import FieldedSearch.CommandLine.Report
import FieldedSearch.Proofs.Answers
import FieldedSearch.Proofs.Groups

/-!
# Ids of hits and of records

The results of a search are the ids of the hits, or their records. A record has the id of its
hit in front of the fields, and a field that is itself called like the id takes its place. So
both kinds of results list the same ids exactly if every such field has the id of its hit for
a value (`CommandLine.ids_records_iff`).
-/

namespace FieldedSearch

namespace Search

variable {hit : Value} {hits : List Value} {name : String}

/-! ## Records -/

/-- What a record has under a name is the value of the field of this name, or else what stood
there before the fields. -/
theorem get?_foldl_put {fields : List (String × Value)} (h : (Entries.names fields).Nodup)
    (record : List (String × Value)) (name : String) :
    Entries.get? (fields.foldl (fun record (n, v) => Entries.put n (unwrap v) record) record) name =
      ((Entries.get? fields name).map unwrap).or (Entries.get? record name) := by
  induction fields generalizing record with
  | nil => rfl
  | cons field fields ih =>
    obtain ⟨n, v⟩ := field
    obtain ⟨hn, hfields⟩ := List.nodup_cons.1 h
    rw [List.foldl_cons, ih hfields]
    dsimp only
    by_cases hname : name = n
    · subst hname
      rw [Entries.get?_eq_none_iff.2 hn, Entries.get?_cons_self, Entries.put,
        Entries.get?_update_self]
      rfl
    · rw [Entries.get?_cons_of_ne hname, Entries.put, Entries.get?_update_of_ne hname]

/-- A hit as the backend describes one: it has an id, and its fields are a table with distinct
names, if there are any. -/
structure IsHit (hit : Value) : Prop where
  hasId : HasId hit
  hasFields : HasFields hit
  distinct : ∀ entries fields, hit = .map entries →
    Entries.get? entries dataName = some (.map fields) → (Entries.names fields).Nodup

/-- A hit in which a field that is called like the id has the id for a value. -/
def KeepsId (hit : Value) : Prop :=
  ∀ entries fields v, hit = .map entries → Entries.get? entries dataName = some (.map fields) →
    Entries.get? fields idName = some v → Entries.get? entries idName = some (unwrap v)

/-- The record of a hit has an id, and this is that of the hit exactly if the hit keeps it. -/
theorem IsHit.exists_record (h : IsHit hit) : ∃ id record id', hitId hit = .ok id ∧
    hitRecord hit = .ok (.map record) ∧ Entries.get? record idName = some id' ∧
      (id' = id ↔ KeepsId hit) := by
  obtain ⟨entries, id, rfl, hid⟩ := h.hasId
  have hhit : hitId (.map entries) = .ok id := by simp only [hitId, hid]
  cases hdata : Entries.get? entries dataName with
  | none =>
    refine ⟨id, [(idName, id)], id, hhit, ?_, rfl, iff_of_true rfl ?_⟩
    · simp only [hitRecord, hdata, hid, Option.getD_none, Option.getD_some]
      rfl
    · rintro _ fields v ⟨⟩ hfields
      cases hdata.symm.trans hfields
  | some data =>
    obtain ⟨_, ⟨⟩, hfields⟩ := h.hasFields
    obtain ⟨fields, rfl⟩ := hfields data hdata
    have hrecord : hitRecord (.map entries) = .ok (.map (recordOf id fields)) := by
      simp only [hitRecord, hdata, hid, Option.getD_some]
    have hget := get?_foldl_put (h.distinct entries fields rfl hdata) [(idName, id)] idName
    rw [Entries.get?_cons_self] at hget
    have hkeeps : KeepsId (.map entries) ↔
        ∀ v, Entries.get? fields idName = some v → unwrap v = id := by
      constructor
      · intro hkeeps v hv
        have hsame := hkeeps entries fields v rfl hdata hv
        exact Option.some.inj (hsame.symm.trans hid)
      · rintro hsame _ _ v ⟨⟩ hfields' hv
        obtain rfl := Value.map.inj (Option.some.inj (hdata.symm.trans hfields'))
        rw [hid, hsame v hv]
    cases hv : Entries.get? fields idName with
    | none =>
      rw [hv] at hget hkeeps
      exact ⟨id, _, id, hhit, hrecord, hget, iff_of_true rfl (hkeeps.2 fun v hv => by cases hv)⟩
    | some v =>
      rw [hv] at hget hkeeps
      refine ⟨id, _, unwrap v, hhit, hrecord, hget, fun hsame => ?_, fun h => hkeeps.1 h v rfl⟩
      exact hkeeps.2 fun _ hv' => Option.some.inj hv' ▸ hsame

/-- The records of hits have ids one by one, and these are those of the hits exactly if every
hit keeps its id. -/
theorem exists_records (h : ∀ hit ∈ hits, IsHit hit) : ∃ is rs is',
    hits.mapM hitId = .ok is ∧ hits.mapM hitRecord = .ok rs ∧ rs.mapM hitId = .ok is' ∧
      (∀ r ∈ rs, ∃ record, r = .map record) ∧ (is' = is ↔ ∀ hit ∈ hits, KeepsId hit) := by
  induction hits with
  | nil => exact ⟨[], [], [], rfl, rfl, rfl, List.forall_mem_nil _, by simp⟩
  | cons hit hits ih =>
    obtain ⟨hhit, hhits⟩ := List.forall_mem_cons.1 h
    obtain ⟨id, record, id', hid, hrecord, hid', hkeeps⟩ := hhit.exists_record
    obtain ⟨is, rs, is', his, hrs, his', hmaps, hkept⟩ := ih hhits
    have hid' : hitId (.map record) = .ok id' := by simp only [hitId, hid']
    refine ⟨id :: is, .map record :: rs, id' :: is', ?_, ?_, ?_, ?_, ?_⟩
    · rw [List.mapM_cons, hid, his]
      rfl
    · rw [List.mapM_cons, hrecord, hrs]
      rfl
    · rw [List.mapM_cons, hid', his']
      rfl
    · exact List.forall_mem_cons.2 ⟨⟨record, rfl⟩, hmaps⟩
    · rw [List.cons.injEq, List.forall_mem_cons, hkeeps, hkept]

end Search

/-! ## Lists of ids -/

namespace CommandLine

open Search

/-- Records are listed as their ids are, unless an id is itself taken for a record. -/
theorem Transcript.showIds_of_mapM_hitId {rs is : List Value}
    (hrs : ∀ r ∈ rs, ∃ record, r = .map record) (his : ∀ id ∈ is, ∀ entries, id ≠ .map entries)
    (h : rs.mapM hitId = .ok is) (t : Transcript) : t.showIds rs = t.showIds is := by
  induction rs generalizing is t with
  | nil =>
    obtain rfl := Except.ok.inj h
    rfl
  | cons r rs ih =>
    obtain ⟨id, ids, hid, hids, rfl⟩ := exists_of_mapM_cons_eq_ok h
    obtain ⟨⟨record, rfl⟩, hmaps⟩ := List.forall_mem_cons.1 hrs
    obtain ⟨hid', hplain⟩ := List.forall_mem_cons.1 his
    have hrecord : resultId (.map record) = .ok id := hid
    have hself : resultId id = .ok id := by
      cases id with
      | map entries => exact absurd rfl (hid' entries)
      | _ => rfl
    have hrest (t : Transcript) := ih hmaps hplain hids t
    unfold showIds at hrest ⊢
    rw [List.foldl_cons, List.foldl_cons, hrecord, hself]
    exact hrest _

/-- From hits with ids, whose fields are tables if there are any, both ids and records are
made. The ids of the records are those of the hits, in their order, exactly if every hit keeps
its id; and then, if no id is a table, both are listed alike. -/
theorem ids_records_iff {hits : List Value} (h : ∀ hit ∈ hits, IsHit hit) : ∃ is rs is',
    ids (.list hits) = .ok is ∧ records (.list hits) = .ok rs ∧ rs.mapM hitId = .ok is' ∧
      (is' = is ↔ ∀ hit ∈ hits, KeepsId hit) ∧
      ((∀ hit ∈ hits, KeepsId hit) → (∀ id ∈ is, ∀ entries, id ≠ .map entries) →
        ∀ t : Transcript, t.showIds rs = t.showIds is) := by
  obtain ⟨is, rs, is', his, hrs, his', hmaps, hkept⟩ := exists_records h
  refine ⟨is, rs, is', his, hrs, his', hkept, fun hkeeps hplain => ?_⟩
  obtain rfl := hkept.2 hkeeps
  exact Transcript.showIds_of_mapM_hitId hmaps hplain his'

/-- A hit with a field, and one that has its id among its fields as well. -/
def namedHits : List Value :=
  [.map [("id", .text "a"), ("data", .map [("name", .list [.text "x"])])],
    .map [("id", .text "b"), ("data", .map [("id", .list [.text "b"])])]]

/-- A hit with a field that is called like the id and has another value. -/
def disguisedHit : Value :=
  .map [("id", .text "a"), ("data", .map [("id", .list [.text "b"])])]

theorem isHit_of_fields {id : Value} {fields : List (String × Value)}
    (h : (Entries.names fields).Nodup) :
    IsHit (.map [(idName, id), (dataName, .map fields)]) := by
  have hdata : Entries.get? [(idName, id), (dataName, .map fields)] dataName =
      some (.map fields) := by
    rfl
  refine ⟨⟨_, id, rfl, rfl⟩, ⟨_, rfl, fun data hfields => ?_⟩, ?_⟩
  · exact ⟨fields, Option.some.inj (hfields.symm.trans hdata)⟩
  · rintro _ fields' ⟨⟩ hfields
    obtain rfl := Value.map.inj (Option.some.inj (hdata.symm.trans hfields))
    exact h

theorem ids_records_iff_namedHits : (∀ hit ∈ namedHits, IsHit hit) ∧
    ids (.list namedHits) = .ok [.text "a", .text "b"] ∧
    ∃ rs, records (.list namedHits) = .ok rs ∧ rs.mapM hitId = .ok [.text "a", .text "b"] := by
  have hhits : ∀ hit ∈ namedHits, IsHit hit :=
    List.forall_mem_cons.2 ⟨isHit_of_fields (by decide),
      List.forall_mem_singleton.2 (isHit_of_fields (by decide))⟩
  have hkeeps : ∀ hit ∈ namedHits, KeepsId hit := by
    refine List.forall_mem_cons.2 ⟨?_, List.forall_mem_singleton.2 ?_⟩
    · rintro _ fields v ⟨⟩ hfields hv
      obtain rfl := Value.map.inj (Option.some.inj hfields)
      cases hv
    · rintro _ fields v ⟨⟩ hfields hv
      obtain rfl := Value.map.inj (Option.some.inj hfields)
      obtain rfl := Option.some.inj hv
      rfl
  obtain ⟨is, rs, is', his, hrs, his', hiff, -⟩ := ids_records_iff hhits
  obtain rfl := hiff.2 hkeeps
  obtain rfl : [.text "a", .text "b"] = is' := Except.ok.inj his
  exact ⟨hhits, his, rs, hrs, his'⟩

/-- The record of such a hit has the value of the field for an id. -/
theorem not_ids_records_disguisedHit : IsHit disguisedHit ∧
    ¬ ∃ is rs, ids (.list [disguisedHit]) = .ok is ∧ records (.list [disguisedHit]) = .ok rs ∧
      rs.mapM hitId = .ok is := by
  refine ⟨isHit_of_fields (by decide), ?_⟩
  rintro ⟨is, rs, his, hrs, hids⟩
  obtain rfl : [.text "a"] = is := Except.ok.inj his
  obtain rfl : [.map [("id", .text "b")]] = rs := Except.ok.inj hrs
  have hsame : Value.text "b" = .text "a" :=
    List.head_eq_of_cons_eq (Except.ok.inj hids)
  have htext : ("b" : String) = "a" := Value.text.inj hsame
  contradiction

end CommandLine

end FieldedSearch
