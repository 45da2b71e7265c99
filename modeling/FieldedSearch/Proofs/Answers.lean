-- SUMMARY: Which answers of the backend end a search in results or in a reported fault of the backend.
import FieldedSearch.Proofs.Sessions

/-!
# Answers

Most of what can be wrong with an answer is reported as a fault of the backend, and leaves
the number of hits as it was. Three kinds of answers are not reported: a document that is
nested too deeply, an infinite number of hits, and hits without the parts of which results
are made. The first two end a search with another failure; the last one does too, when the
number of hits has already changed.
-/

namespace FieldedSearch.Search

variable {hit hits document : Value} {e : Failure}

/-! ## Hits -/

/-- Whether all hits that a value lists have a property. A text or a map lists no hits, and
may stand for none if it is empty. -/
def Lists (P : Value → Prop) : Value → Prop
  | .list hits => ∀ hit ∈ hits, P hit
  | .text s => s = ""
  | .map entries => entries = []
  | _ => False

/-- A hit of which an id is made. -/
def HasId (hit : Value) : Prop :=
  ∃ entries id, hit = .map entries ∧ Entries.get? entries idName = some id

/-- A hit of which a record is made: its fields are a table, if there are any. -/
def HasFields (hit : Value) : Prop :=
  ∃ entries, hit = .map entries ∧
    ∀ data, Entries.get? entries dataName = some data → ∃ fields, data = .map fields

theorem exists_hitId_iff : (∃ id, hitId hit = .ok id) ↔ HasId hit := by
  constructor
  · rintro ⟨id, h⟩
    cases hit with
    | map entries =>
      simp only [hitId] at h
      split at h
      · next id' hid => exact ⟨entries, id', rfl, hid⟩
      · cases h
    | _ => cases h
  · rintro ⟨entries, id, rfl, hid⟩
    exact ⟨id, by simp only [hitId, hid]⟩

theorem exists_hitRecord_iff : (∃ record, hitRecord hit = .ok record) ↔ HasFields hit := by
  constructor
  · rintro ⟨record, h⟩
    cases hit with
    | map entries =>
      refine ⟨entries, rfl, fun data hdata => ?_⟩
      simp only [hitRecord, hdata, Option.getD_some] at h
      split at h
      · next fields => exact ⟨fields, rfl⟩
      · cases h
    | _ => cases h
  · rintro ⟨entries, rfl, hfields⟩
    cases hdata : Entries.get? entries dataName with
    | none =>
      simp only [hitRecord, hdata, Option.getD_none]
      exact ⟨_, rfl⟩
    | some data =>
      obtain ⟨fields, rfl⟩ := hfields data hdata
      simp only [hitRecord, hdata, Option.getD_some]
      exact ⟨_, rfl⟩

/-- Something is made of all that a value consists of exactly if it lists hits of which
something is made, where nothing is made of texts. -/
private theorem exists_mapM_items_iff {g : Value → Except Failure Value}
    (htext : ∀ s v, g (.text s) ≠ .ok v) :
    (∃ vs, (items hits >>= fun vs => vs.mapM g) = .ok vs) ↔
      Lists (fun hit => ∃ v, g hit = .ok v) hits := by
  have htexts {α : Type} (f : α → String) (xs : List α) :
      (∃ vs, (xs.map fun x => Value.text (f x)).mapM g = .ok vs) ↔ xs = [] := by
    rw [exists_mapM_eq_ok_iff, List.forall_mem_map]
    constructor
    · intro h
      refine List.eq_nil_iff_forall_not_mem.2 fun x hx => ?_
      obtain ⟨v, hv⟩ := h x hx
      exact htext _ v hv
    · rintro rfl x hx
      exact absurd hx List.not_mem_nil
  cases hits with
  | list vs => exact exists_mapM_eq_ok_iff
  | map entries => exact htexts (·.1) entries
  | text s => exact (htexts String.singleton s.toList).trans String.toList_eq_nil_iff
  | _ => exact iff_of_false (fun ⟨_, h⟩ => nomatch h) id

theorem exists_ids_iff : (∃ vs, ids hits = .ok vs) ↔ Lists HasId hits := by
  refine (exists_mapM_items_iff (g := hitId) fun _ _ h => nomatch h).trans ?_
  simp only [exists_hitId_iff]

theorem exists_records_iff : (∃ vs, records hits = .ok vs) ↔ Lists HasFields hits := by
  refine (exists_mapM_items_iff (g := hitRecord) fun _ _ h => nomatch h).trans ?_
  simp only [exists_hitRecord_iff]

/-! ## Failures of hits -/

/-- What goes wrong with hits is not reported as a fault of the backend. -/
private theorem category_of_mapM_items {g : Value → Except Failure Value}
    (hg : ∀ v e, g v = .error e → e.category = .internal)
    (h : (items hits >>= fun vs => vs.mapM g) = .error e) : e.category = .internal := by
  rcases bind_eq_error h with hitems | ⟨vs, -, h⟩
  · cases hits <;> cases hitems
    all_goals rfl
  · obtain ⟨v, -, hv⟩ := exists_of_mapM_eq_error h
    exact hg v e hv

theorem category_of_ids (h : ids hits = .error e) : e.category = .internal := by
  refine category_of_mapM_items (g := hitId) (fun v e hv => ?_) h
  cases v with
  | map entries =>
    simp only [hitId] at hv
    split at hv <;> cases hv
    rfl
  | _ =>
    cases hv
    rfl

theorem category_of_records (h : records hits = .error e) : e.category = .internal := by
  refine category_of_mapM_items (g := hitRecord) (fun v e hv => ?_) h
  cases v with
  | map entries =>
    simp only [hitRecord] at hv
    split at hv <;> cases hv
    rfl
  | _ =>
    cases hv
    rfl

/-! ## Documents -/

theorem document_eq_error {a : Answer} (h : a.document = .error e) :
    (∃ fault, e = .backend fault) ∨ e = .tooDeep := by
  cases a with
  | unreachable reason => exact .inl ⟨_, (Except.error.inj h).symm⟩
  | received status body =>
    simp only [Answer.document] at h
    split at h
    · exact .inl ⟨_, (Except.error.inj h).symm⟩
    · split at h
      · cases h
      · exact .inl ⟨_, (Except.error.inj h).symm⟩
      · exact .inr (Except.error.inj h).symm

theorem lookup_eq_error {name : String} (h : lookup name document = .error e) :
    ∃ fault, e = .backend fault := by
  cases document with
  | map entries =>
    simp only [lookup] at h
    split at h
    · cases h
    · exact ⟨_, (Except.error.inj h).symm⟩
  | _ => exact ⟨_, (Except.error.inj h).symm⟩

/-- Of all that is no number of hits only what is infinite is not reported. -/
theorem count_eq_error {v : Value} (h : count v = .error e) :
    (∃ fault, e = .backend fault) ∨ ∃ negative, v = .float (.infinite negative) := by
  cases v with
  | bool b | int n => cases h
  | float x =>
    cases x with
    | nan => exact .inl ⟨_, (Except.error.inj h).symm⟩
    | infinite negative => exact .inr ⟨negative, rfl⟩
    | finite negative m exponent => cases h
  | text s =>
    simp only [count] at h
    split at h
    · cases h
    · exact .inl ⟨_, (Except.error.inj h).symm⟩
    · exact .inl ⟨_, (Except.error.inj h).symm⟩
  | _ => exact .inl ⟨_, (Except.error.inj h).symm⟩

/-- A document whose number of hits is infinite. -/
def IsEndless (document : Value) : Prop :=
  ∃ hits negative, lookup "hits" document = .ok hits ∧
    lookup "found" hits = .ok (.float (.infinite negative))

theorem found_of_isEndless (h : IsEndless document) : found document = .error .tooLarge := by
  obtain ⟨hits, negative, hhits, hfound⟩ := h
  unfold found
  rw [hhits, ok_bind, hfound]
  rfl

theorem found_eq_error (h : found document = .error e) :
    (∃ fault, e = .backend fault) ∨ IsEndless document := by
  unfold found at h
  rcases bind_eq_error h with hhits | ⟨hits, hhits, h⟩
  · exact .inl (lookup_eq_error hhits)
  rcases bind_eq_error h with hfound | ⟨v, hfound, h⟩
  · exact .inl (lookup_eq_error hfound)
  rcases bind_eq_error h with hcount | ⟨n, -, h⟩
  · refine (count_eq_error hcount).imp_right ?_
    rintro ⟨negative, rfl⟩
    exact ⟨hits, negative, hhits, hfound⟩
  · cases h

/-! ## Answers -/

/-- An answer that can be read to its end as far as it is no fault of the backend: its document
is not nested too deeply, the number of hits is not infinite, and if there are hits, they have
the parts of which results are made. -/
structure Answer.Presentable (idsOnly : Bool) (a : Answer) : Prop where
  shallow : a.document ≠ .error .tooDeep
  finite : ∀ document, a.document = .ok document → ¬ IsEndless document
  listed : ∀ hits n, a.document.bind found = .ok (hits, n) → n ≠ 0 →
    Lists (if idsOnly then HasId else HasFields) (listed hits)

/-- If the number of hits is known, nothing but the hits is left to be asked for. -/
theorem Answer.presentable_iff_of_found {a : Answer} {idsOnly : Bool} {n : Int}
    (hfound : a.document.bind found = .ok (hits, n)) :
    a.Presentable idsOnly ↔
      (n ≠ 0 → Lists (if idsOnly then HasId else HasFields) (Search.listed hits)) := by
  obtain ⟨document, hdocument, h⟩ := exists_of_bind_eq_ok hfound
  constructor
  · exact fun ha => ha.listed hits n hfound
  · intro hlisted
    constructor
    case shallow => exact fun hdeep => nomatch hdocument.symm.trans hdeep
    case finite =>
      intro document' hdocument' hendless
      obtain rfl := Except.ok.inj (hdocument.symm.trans hdocument')
      cases (found_of_isEndless hendless).symm.trans h
    case listed =>
      intro hits' n' hfound'
      obtain ⟨rfl, rfl⟩ := Prod.mk.inj (Except.ok.inj (hfound.symm.trans hfound'))
      exact hlisted

namespace Searcher

variable {s : Searcher} {o : Options} {a : Answer}

/-- A searcher as the program sets it up: the results are ids, or else hits that are made
records once. -/
structure Installed (s : Searcher) (o : Options) : Prop where
  options : s.options = some o
  flattenings : s.flattenings = if o.idsOnly then 0 else 1

theorem Installed.results_eq (hs : s.Installed o) (hits : Value) :
    s.results hits = if o.idsOnly then ids hits else records hits := by
  have hitems (m : Except Failure (List Value)) :
      (m.map Value.list >>= fun v => items v) = m := by
    cases m <;> rfl
  unfold results
  rw [hs.options, hs.flattenings, Option.any_some]
  cases o.idsOnly with
  | true => exact hitems (ids hits)
  | false =>
    refine Eq.trans ?_ (hitems (records hits))
    simp only [Bool.false_eq_true, if_false, ok_bind, flatten]
    cases records hits <;> rfl

theorem Installed.exists_results_iff (hs : s.Installed o) :
    (∃ vs, s.results hits = .ok vs) ↔ Lists (if o.idsOnly then HasId else HasFields) hits := by
  rw [hs.results_eq]
  cases o.idsOnly with
  | true => exact exists_ids_iff
  | false => exact exists_records_iff

theorem Installed.category_of_results (hs : s.Installed o) (h : s.results hits = .error e) :
    e.category = .internal := by
  rw [hs.results_eq] at h
  split at h
  · exact category_of_ids h
  · exact category_of_records h

/-- An answer that is presentable, and no other, brings results, or a fault of the backend that
leaves the number of hits as it was. -/
theorem Installed.receive_iff (hs : s.Installed o) :
    ((∃ vs, (s.receive a).2 = .ok vs) ∨
        ∃ fault, (s.receive a).2 = .error (.backend fault) ∧ (s.receive a).1.count = s.count) ↔
      a.Presentable o.idsOnly := by
  unfold receive
  cases hfound : a.document.bind found with
  | error e =>
    constructor
    · rintro (⟨vs, h⟩ | ⟨fault, h, -⟩)
      · cases h
      obtain rfl := Except.error.inj h
      constructor
      case shallow =>
        intro hdocument
        rw [hdocument] at hfound
        cases hfound
      case finite =>
        intro document hdocument hendless
        rw [hdocument] at hfound
        cases (found_of_isEndless hendless).symm.trans hfound
      case listed =>
        intro hits n h
        rw [hfound] at h
        cases h
    · intro ha
      have hfault : ∃ fault, e = .backend fault := by
        rcases bind_eq_error hfound with hdocument | ⟨document, hdocument, h⟩
        · refine (document_eq_error hdocument).resolve_right ?_
          rintro rfl
          exact ha.shallow hdocument
        · exact (found_eq_error h).resolve_right (ha.finite document hdocument)
      obtain ⟨fault, rfl⟩ := hfault
      exact .inr ⟨fault, rfl, rfl⟩
  | ok found =>
    obtain ⟨hits, n⟩ := found
    have hs' : Installed { s with count := some n } o := ⟨hs.options, hs.flattenings⟩
    rw [Answer.presentable_iff_of_found hfound]
    by_cases hn : n = 0
    · simp only [if_pos hn]
      exact iff_of_true (.inl ⟨[], rfl⟩) fun hne => absurd hn hne
    · simp only [if_neg hn]
      constructor
      · rintro (hresults | ⟨fault, hfault, -⟩) _
        · exact hs'.exists_results_iff.1 hresults
        · cases hs'.category_of_results hfault
      · exact fun h => .inl (hs'.exists_results_iff.2 (h hn))

end Searcher

/-! ## Searches -/

namespace Session

variable {s : Session} {o : Options} {endpoint : String} {offset size : Int} {q : Request}

/-- A search ends in a way that is told: with results, or with a fault of the backend that
leaves the number of hits as it was. -/
def Reported (s : Session) (offset size : Int) : Prop :=
  (∃ vs, (s.take (.get offset size)).outcome = .results vs) ∨
    ∃ fault, (s.take (.get offset size)).outcome = .failed (.backend fault) ∧
      (s.take (.get offset size)).session.searcher.count = s.searcher.count

theorem reported_of_sending {sending : Sending}
    (hsending : s.searcher.sending offset size = .ok sending) :
    s.Reported offset size ↔
      (∃ vs, (s.searcher.receive (s.answers.headD default)).2 = .ok vs) ∨
        ∃ fault, (s.searcher.receive (s.answers.headD default)).2 = .error (.backend fault) ∧
          (s.searcher.receive (s.answers.headD default)).1.count = s.searcher.count := by
  unfold Reported
  simp only [take, search, hsending]
  cases s.searcher.receive (s.answers.headD default) with
  | mk searcher results =>
    cases results with
    | error e => simp
    | ok vs => simp

/-- For a filter that has a request, and with an endpoint to send it to, a search ends in a way
that is told exactly if the numbers of the request can be written and the answer is
presentable. -/
theorem reported_iff_presentable (hs : s.searcher.Installed o)
    (hendpoint : o.endpoint = some endpoint) (hne : endpoint ≠ "")
    (hq : s.searcher.request offset size = .ok q) :
    s.Reported offset size ↔
      (Text.Integer.isWritable offset ∧ Text.Integer.isWritable size) ∧
        (s.answers.headD default).Presentable o.idsOnly := by
  have hwritable : q.isWritable ↔
      Text.Integer.isWritable offset ∧ Text.Integer.isWritable size := by
    rw [Searcher.isWritable_request hq, Bool.and_eq_true, and_comm]
  rw [← hwritable]
  by_cases h : q.isWritable
  · have hsending := Searcher.sending_eq_ok_iff.2
      ⟨o, endpoint, q, hs.options, hendpoint, hne, hq, h, rfl⟩
    rw [reported_of_sending hsending, hs.receive_iff, and_iff_right h]
  · have hsending : s.searcher.sending offset size = .error .notWritable := by
      unfold Searcher.sending
      rw [Searcher.destination_eq_ok_iff.2 ⟨hs.options, hendpoint, hne⟩, ok_bind]
      simp only [hq, ok_bind, if_neg h]
      rfl
    refine iff_of_false ?_ fun hand => h hand.1
    unfold Reported
    simp only [take, search, hsending]
    rintro (⟨vs, hvs⟩ | ⟨fault, hfault, -⟩)
    · cases hvs
    · cases hfault

/-- The options of a searcher with an endpoint. -/
def endpointOptions : Options := { Options.standard with endpoint := some "e" }

/-- A searcher for a filter without constraints that makes records. -/
def recordSearcher : Searcher := .of (.empty .empty) (some endpointOptions) 1 none

/-- An answer with two hits, of which one has no fields. -/
def twoRecords : Answer :=
  .received 200 ("\x7b\"hits\": \x7b\"found\": \"2\", \"hit\": " ++
    "[\x7b\"id\": 7, \"data\": \x7b\"age\": [1]\x7d\x7d, \x7b\x7d]\x7d\x7d")

/-- Hits with fields and without them are reported. -/
theorem reported_iff_presentable_twoRecords :
    recordSearcher.Installed endpointOptions ∧
    recordSearcher.request 0 10 = .ok ⟨none, none, none, 10, 0⟩ ∧
    (Session.of recordSearcher [twoRecords]).Reported 0 10 := by
  have hs : recordSearcher.Installed endpointOptions := ⟨rfl, rfl⟩
  have hq : recordSearcher.request 0 10 = .ok ⟨none, none, none, 10, 0⟩ := rfl
  have hfound : twoRecords.document.bind found = .ok (.map [("found", .text "2"),
      ("hit", .list [.map [("id", .int 7), ("data", .map [("age", .list [.int 1])])],
        .map []])], 2) :=
    eq_ok_of_toOption (by decide +kernel)
  have hpresentable : twoRecords.Presentable false := by
    refine (Answer.presentable_iff_of_found hfound).2 fun _ => ?_
    refine List.forall_mem_cons.2 ⟨⟨_, rfl, fun data hdata => ?_⟩,
      List.forall_mem_singleton.2 ⟨_, rfl, fun data hdata => ?_⟩⟩
    · exact ⟨_, (Option.some.inj hdata).symm⟩
    · cases hdata
  exact ⟨hs, hq, (reported_iff_presentable (s := .of recordSearcher [twoRecords]) hs rfl
    (by decide) hq).2 ⟨⟨by decide +kernel, by decide +kernel⟩, hpresentable⟩⟩

/-- An answer with one hit and null in the place of the hits. -/
def nullHits : Answer :=
  .received 200 "\x7b\"hits\": \x7b\"found\": 1, \"hit\": null\x7d\x7d"

/-- Null in the place of the hits is not reported. -/
theorem not_reported_nullHits :
    recordSearcher.Installed endpointOptions ∧ endpointOptions.endpoint = some "e" ∧
    recordSearcher.request 0 10 = .ok ⟨none, none, none, 10, 0⟩ ∧
    ¬ (Session.of recordSearcher [nullHits]).Reported 0 10 := by
  refine ⟨⟨rfl, rfl⟩, rfl, rfl, ?_⟩
  have hfound : nullHits.document.bind found =
      .ok (.map [("found", .int 1), ("hit", .null)], 1) :=
    eq_ok_of_toOption (by decide +kernel)
  have hreceive : (recordSearcher.receive nullHits).2 = .error .wrongKind := by
    unfold Searcher.receive
    rw [hfound]
    rfl
  have hsending : ∃ sending, recordSearcher.sending 0 10 = .ok sending :=
    ⟨_, Searcher.sending_eq_ok_iff.2
      ⟨_, _, _, rfl, rfl, by decide, rfl, by decide +kernel, rfl⟩⟩
  obtain ⟨sending, hsending⟩ := hsending
  rw [reported_of_sending (s := .of recordSearcher [nullHits]) hsending]
  rintro (⟨vs, hvs⟩ | ⟨fault, hfault, -⟩)
  · cases hreceive.symm.trans hvs
  · cases hreceive.symm.trans hfault

end Session

end FieldedSearch.Search
