-- SUMMARY: What the steps of a session send, count and yield, whatever steps come before and after.
import Mathlib.Data.List.Basic
import FieldedSearch.Proofs.Translating
import FieldedSearch.Search.Session

/-!
# Sessions

Every step of a session is seen after any run of steps. It sends a request exactly if it
asks for a page, the backend can be reached, and the filter has a request whose numbers can
be written. The request is the one whose text could be asked for instead, its answer is the
next one that is still to come, and only this answer changes the number of hits. All results
that are kept are taken one at a time and in order, whatever other steps come between.
-/

namespace FieldedSearch.Search

/-! ## Searchers -/

/-- The number of hits that an answer reports, unless it is rejected, no JSON, or reports
nothing that is a number. -/
def Answer.reported? (a : Answer) : Option Int := (a.document.bind found).toOption.map (·.2)

namespace Searcher

variable {s : Searcher} {offset size : Int} {sending : Sending}

theorem destination_eq_ok_iff {endpoint : String} {o : Options} :
    s.destination = .ok (endpoint, o) ↔
      s.options = some o ∧ o.endpoint = some endpoint ∧ endpoint ≠ "" := by
  unfold destination
  constructor
  · intro h
    split at h
    · cases h
    · next o' ho =>
      split at h
      · cases h
      · next endpoint' hendpoint =>
        split at h
        · cases h
        · next hne =>
          obtain ⟨rfl, rfl⟩ := Prod.mk.inj (Except.ok.inj h)
          exact ⟨ho, hendpoint, hne⟩
  · rintro ⟨ho, hendpoint, hne⟩
    simp only [ho, hendpoint, if_neg hne]

theorem isWritable_request {q : Request} (h : s.request offset size = .ok q) :
    q.isWritable = (Text.Integer.isWritable size && Text.Integer.isWritable offset) := by
  obtain ⟨-, -, booleanQuery, -, rfl⟩ := Request.ofFilter_eq_ok h
  rfl

/-- What is sent is the request of the filter, to where the options say. -/
theorem sending_eq_ok_iff :
    s.sending offset size = .ok sending ↔
      ∃ o endpoint q, s.options = some o ∧ o.endpoint = some endpoint ∧ endpoint ≠ "" ∧
        s.request offset size = .ok q ∧ q.isWritable ∧
        sending = ⟨endpoint, q.parameters, o.timeout, o.verify⟩ := by
  unfold Searcher.sending
  constructor
  · intro h
    obtain ⟨⟨endpoint, o⟩, hdestination, h⟩ := exists_of_bind_eq_ok h
    obtain ⟨q, hq, h⟩ := exists_of_bind_eq_ok h
    obtain ⟨ho, hendpoint, hne⟩ := destination_eq_ok_iff.1 hdestination
    split at h
    · next hwritable =>
      exact ⟨o, endpoint, q, ho, hendpoint, hne, hq, hwritable, (Except.ok.inj h).symm⟩
    · cases h
  · rintro ⟨o, endpoint, q, ho, hendpoint, hne, hq, hwritable, rfl⟩
    rw [destination_eq_ok_iff.2 ⟨ho, hendpoint, hne⟩]
    simp only [bind, Except.bind, hq, if_pos hwritable]
    rfl

theorem queryString_of_sending (h : s.sending offset size = .ok sending) :
    s.queryString offset size =
      .ok ("&".intercalate (sending.parameters.map fun (name, value) => name ++ "=" ++ value)) := by
  obtain ⟨o, endpoint, q, -, -, -, hq, hwritable, rfl⟩ := sending_eq_ok_iff.1 h
  simp only [queryString, bind, Except.bind, hq, if_pos hwritable]
  rfl

theorem count_receive (s : Searcher) (a : Answer) :
    (s.receive a).1.count = a.reported?.or s.count := by
  unfold receive Answer.reported?
  cases a.document.bind found <;> rfl

theorem results_receive_of_reported {a : Answer} (h : a.reported? = some 0) (s : Searcher) :
    (s.receive a).2 = .ok [] := by
  unfold receive
  unfold Answer.reported? at h
  cases hfound : a.document.bind found with
  | error e => rw [hfound] at h; cases h
  | ok found =>
    obtain ⟨hits, n⟩ := found
    rw [hfound] at h
    obtain rfl : n = 0 := Option.some.inj h
    rfl

end Searcher

/-! ## Steps -/

/-- The page for which a step asks the backend. -/
def Step.page? : Step → Option (Int × Int)
  | .get offset size | .keep offset size => some (offset, size)
  | _ => none

/-- Whether a step takes one of the results that are kept under a number. -/
def Step.takesFrom (number : Nat) : Step → Bool
  | .next number' => number' = number
  | _ => false

namespace Session

variable {s : Session} {step : Step} {offset size : Int} {sending : Sending}

/-- The session after the next answer. -/
def answered (s : Session) : Session :=
  { s with searcher := (s.searcher.receive (s.answers.headD default)).1, answers := s.answers.drop 1 }

/-- The results that the next answer brings. -/
def results (s : Session) : Except Failure (List Value) :=
  (s.searcher.receive (s.answers.headD default)).2

/-- A search that cannot be sent leaves everything as it is, and one that is sent brings the
next answer. -/
theorem search_cases (s : Session) (offset size : Int)
    (use : List Value → Session → Outcome × Session) :
    (∃ e, s.searcher.sending offset size = .error e ∧
      s.search offset size use = ⟨.failed e, [], s⟩) ∨
    ∃ sending, s.searcher.sending offset size = .ok sending ∧
      ((∃ e, s.results = .error e ∧ s.search offset size use = ⟨.failed e, [sending], s.answered⟩) ∨
      ∃ vs, s.results = .ok vs ∧ s.search offset size use =
        ⟨(use vs s.answered).1, [sending], (use vs s.answered).2⟩) := by
  unfold search results answered
  cases hsending : s.searcher.sending offset size with
  | error e => exact .inl ⟨e, rfl, rfl⟩
  | ok sending =>
    refine .inr ⟨sending, rfl, ?_⟩
    cases hresults : s.searcher.receive (s.answers.headD default) with
    | mk searcher results =>
      cases results with
      | error e => exact .inl ⟨e, rfl, rfl⟩
      | ok vs => exact .inr ⟨vs, rfl, rfl⟩

/-- A step either asks for nothing, and then sends nothing and leaves the answers and the
number of hits alone, or asks for a page. -/
theorem take_cases (s : Session) (step : Step) :
    (step.page? = none ∧ (s.take step).sent = [] ∧ (s.take step).session.answers = s.answers ∧
      (s.take step).session.searcher.count = s.searcher.count) ∨
    ∃ offset size use, step.page? = some (offset, size) ∧ s.take step = s.search offset size use ∧
      ∀ vs s', (use vs s').2.searcher = s'.searcher ∧ (use vs s').2.answers = s'.answers := by
  cases step with
  | get offset size =>
    exact .inr ⟨offset, size, fun vs s => (.results vs, s), rfl, rfl, fun _ _ => ⟨rfl, rfl⟩⟩
  | keep offset size =>
    exact .inr ⟨offset, size, fun vs s => (.nothing, { s with kept := s.kept ++ [vs] }), rfl, rfl,
      fun _ _ => ⟨rfl, rfl⟩⟩
  | query offset size =>
    simp only [take]
    split <;> exact .inl ⟨rfl, rfl, rfl, rfl⟩
  | next number =>
    simp only [take]
    split <;> exact .inl ⟨rfl, rfl, rfl, rfl⟩
  | _ => exact .inl ⟨rfl, rfl, rfl, rfl⟩

theorem sent_take (s : Session) (step : Step) :
    (s.take step).sent =
      (step.page?.bind fun page => (s.searcher.sending page.1 page.2).toOption).toList := by
  rcases take_cases s step with ⟨hpage, hsent, -⟩ | ⟨offset, size, use, hpage, htake, -⟩
  · rw [hsent, hpage]
    rfl
  · rw [hpage, htake]
    rcases search_cases s offset size use with ⟨e, hsending, hsearch⟩ |
      ⟨sending, hsending, ⟨e, -, hsearch⟩ | ⟨vs, -, hsearch⟩⟩ <;>
    · rw [hsearch, Option.bind_some, hsending]
      rfl

/-- Every request takes one answer, and no other step takes any. -/
theorem answers_take (s : Session) (step : Step) :
    (s.take step).session.answers = s.answers.drop (s.take step).sent.length := by
  rcases take_cases s step with ⟨-, hsent, hanswers, -⟩ | ⟨offset, size, use, -, htake, huse⟩
  · rw [hsent, hanswers]
    rfl
  · rw [htake]
    rcases search_cases s offset size use with ⟨e, -, hsearch⟩ |
      ⟨sending, -, ⟨e, -, hsearch⟩ | ⟨vs, -, hsearch⟩⟩ <;> rw [hsearch]
    · rfl
    · rfl
    · exact (huse vs s.answered).2

theorem count_take (s : Session) (step : Step) :
    (s.take step).session.searcher.count =
      if (s.take step).sent = [] then s.searcher.count
      else (s.answers.headD default).reported?.or s.searcher.count := by
  rcases take_cases s step with ⟨-, hsent, -, hcount⟩ | ⟨offset, size, use, -, htake, huse⟩
  · rw [hcount, if_pos hsent]
  · rw [htake]
    rcases search_cases s offset size use with ⟨e, -, hsearch⟩ |
      ⟨sending, -, ⟨e, -, hsearch⟩ | ⟨vs, -, hsearch⟩⟩ <;> rw [hsearch]
    · rfl
    · exact Searcher.count_receive _ _
    · change (use vs s.answered).2.searcher.count = _
      rw [(huse vs s.answered).1]
      exact Searcher.count_receive _ _

/-- If the next answer reports no hits, a search that is sent has no results. -/
theorem outcome_get_of_reported (hsending : s.searcher.sending offset size = .ok sending)
    (hanswer : (s.answers.headD default).reported? = some 0) :
    (s.take (.get offset size)).outcome = .results [] := by
  have hresults : s.results = .ok [] := Searcher.results_receive_of_reported hanswer s.searcher
  rcases search_cases s offset size fun vs s => (.results vs, s) with ⟨e, he, -⟩ |
    ⟨_, -, ⟨e, he, -⟩ | ⟨vs, hvs, hsearch⟩⟩
  · cases hsending.symm.trans he
  · cases hresults.symm.trans he
  · obtain rfl := Except.ok.inj (hresults.symm.trans hvs)
    exact congrArg Taken.outcome hsearch

/-! ## Results that are kept -/

/-- What is kept under the next number is what a search for the same page would have given. -/
theorem outcome_keep (s : Session) (offset size : Int) :
    (∃ e, (s.take (.get offset size)).outcome = .failed e ∧
      (s.take (.keep offset size)).outcome = .failed e) ∨
    ∃ vs, (s.take (.get offset size)).outcome = .results vs ∧
      (s.take (.keep offset size)).outcome = .nothing ∧
      (s.take (.keep offset size)).session.kept = s.kept ++ [vs] := by
  simp only [take, search]
  split
  · next e _ => exact .inl ⟨e, rfl, rfl⟩
  · cases s.searcher.receive (s.answers.headD default) with
    | mk searcher results =>
      cases results with
      | error e => exact .inl ⟨e, rfl, rfl⟩
      | ok vs => exact .inr ⟨vs, rfl, rfl, rfl⟩

theorem outcome_next (s : Session) (number : Nat) :
    (s.take (.next number)).outcome = (s.kept.getD number []).head?.elim .exhausted .item := by
  cases hkept : s.kept.getD number [] <;> simp only [take, hkept] <;> rfl

/-- Nothing but taking them changes results that are kept. -/
theorem kept_take {number : Nat} {vs : List Value} (h : s.kept[number]? = some vs) (step : Step) :
    (s.take step).session.kept[number]? =
      some (vs.drop (if step.takesFrom number then 1 else 0)) := by
  cases step with
  | get offset size =>
    rcases search_cases s offset size fun vs s => (.results vs, s) with ⟨e, -, hsearch⟩ |
      ⟨_, -, ⟨e, -, hsearch⟩ | ⟨vs', -, hsearch⟩⟩ <;>
    · simp only [take, hsearch]
      exact h
  | keep offset size =>
    rcases search_cases s offset size fun vs s => (.nothing, { s with kept := s.kept ++ [vs] }) with
      ⟨e, -, hsearch⟩ | ⟨_, -, ⟨e, -, hsearch⟩ | ⟨vs', -, hsearch⟩⟩ <;> simp only [take, hsearch]
    · exact h
    · exact h
    · -- what is kept anew stands behind all the rest
      exact (List.getElem?_append_left (List.getElem?_eq_some_iff.1 h).1).trans h
  | next number' =>
    simp only [take, Step.takesFrom, decide_eq_true_eq]
    by_cases hnumber : number' = number
    · subst hnumber
      have hget : s.kept.getD number' [] = vs := by rw [List.getD_eq_getElem?_getD, h]; rfl
      rw [if_pos rfl, hget]
      cases vs with
      | nil => exact h
      | cons v vs =>
        dsimp only
        rw [List.getElem?_set_self (List.getElem?_eq_some_iff.1 h).1]
        rfl
    · rw [if_neg hnumber]
      split
      · dsimp only
        rw [List.getElem?_set_ne hnumber]
        exact h
      · exact h
  | query offset size =>
    simp only [take]
    split <;> exact h
  | _ => exact h

/-! ## Runs -/

/-- The session that steps leave. -/
def after (s : Session) (steps : List Step) : Session :=
  steps.foldl (fun s step => (s.take step).session) s

theorem after_cons (s : Session) (step : Step) (steps : List Step) :
    s.after (step :: steps) = (s.take step).session.after steps := rfl

theorem run_append (s : Session) (before later : List Step) :
    s.run (before ++ later) = s.run before ++ (s.after before).run later := by
  induction before generalizing s with
  | nil => rfl
  | cons step before ih =>
    rw [List.cons_append, run, run, ih, after_cons, List.cons_append]

/-- What a run of steps sends. -/
def sentBy (s : Session) (steps : List Step) : List Sending := (s.run steps).flatMap (·.sent)

theorem sentBy_cons (s : Session) (step : Step) (steps : List Step) :
    s.sentBy (step :: steps) = (s.take step).sent ++ (s.take step).session.sentBy steps := rfl

/-- The answers that are still to come are those behind as many as requests were sent. -/
theorem answers_after (s : Session) (steps : List Step) :
    (s.after steps).answers = s.answers.drop (s.sentBy steps).length := by
  induction steps generalizing s with
  | nil => rfl
  | cons step steps ih =>
    rw [after_cons, ih, answers_take, sentBy_cons, List.drop_drop, List.length_append]

/-- Of results that are kept, those are left that have not been taken, whatever other steps
come between. -/
theorem kept_after {number : Nat} {vs : List Value} (h : s.kept[number]? = some vs)
    (steps : List Step) :
    (s.after steps).kept[number]? = some (vs.drop (steps.countP (Step.takesFrom number))) := by
  induction steps generalizing s vs with
  | nil => exact h
  | cons step steps ih =>
    rw [after_cons, ih (kept_take h step), List.drop_drop, List.countP_cons, Nat.add_comm]

theorem outcome_next_after {number : Nat} {vs : List Value} (h : s.kept[number]? = some vs)
    (steps : List Step) :
    ((s.after steps).take (.next number)).outcome =
      (vs[steps.countP (Step.takesFrom number)]?).elim .exhausted .item := by
  rw [outcome_next, List.getD_eq_getElem?_getD, kept_after h, Option.getD_some, List.head?_drop]

/-! ## Steps within a run -/

/-- Whether a step asks for a page that can be asked for: there is an endpoint, the filter has
a request, and its numbers can be written. -/
def Asks (s : Session) (step : Step) : Prop :=
  ∃ offset size o endpoint q, step.page? = some (offset, size) ∧ s.searcher.options = some o ∧
    o.endpoint = some endpoint ∧ endpoint ≠ "" ∧ s.searcher.request offset size = .ok q ∧
    Text.Integer.isWritable offset ∧ Text.Integer.isWritable size

theorem asks_iff : s.Asks step ↔ ∃ offset size sending,
    step.page? = some (offset, size) ∧ s.searcher.sending offset size = .ok sending := by
  constructor
  · rintro ⟨offset, size, o, endpoint, q, hpage, ho, hendpoint, hne, hq, hoffset, hsize⟩
    have hwritable : q.isWritable := by
      rw [Searcher.isWritable_request hq, hsize, hoffset]
      rfl
    exact ⟨offset, size, _, hpage,
      Searcher.sending_eq_ok_iff.2 ⟨o, endpoint, q, ho, hendpoint, hne, hq, hwritable, rfl⟩⟩
  · rintro ⟨offset, size, sending, hpage, hsending⟩
    obtain ⟨o, endpoint, q, ho, hendpoint, hne, hq, hwritable, -⟩ :=
      Searcher.sending_eq_ok_iff.1 hsending
    rw [Searcher.isWritable_request hq, Bool.and_eq_true] at hwritable
    exact ⟨offset, size, o, endpoint, q, hpage, ho, hendpoint, hne, hq, hwritable.2, hwritable.1⟩

theorem mem_sent_take : sending ∈ (s.take step).sent ↔ ∃ offset size,
    step.page? = some (offset, size) ∧ s.searcher.sending offset size = .ok sending := by
  rw [sent_take, Option.mem_toList, Option.bind_eq_some_iff]
  constructor
  · rintro ⟨⟨offset, size⟩, hpage, h⟩
    refine ⟨offset, size, hpage, ?_⟩
    cases hsending : s.searcher.sending offset size with
    | error e => rw [hsending] at h; cases h
    | ok sending' => rw [hsending] at h; exact congrArg _ (Option.some.inj h)
  · rintro ⟨offset, size, hpage, hsending⟩
    exact ⟨(offset, size), hpage, by rw [hsending]; rfl⟩

theorem sent_take_of_not_asks (h : ¬ s.Asks step) : (s.take step).sent = [] := by
  refine List.eq_nil_iff_forall_not_mem.2 fun sending hmem => h ?_
  obtain ⟨offset, size, hpage, hsending⟩ := mem_sent_take.1 hmem
  exact asks_iff.2 ⟨offset, size, sending, hpage, hsending⟩

/-- What a step does within a run: what it sends, what it does to the number of hits with the
given answer, and what becomes of results that it keeps, under the next number. -/
structure Orderly (s : Session) (answer : Answer) (step : Step) (later : List Step) : Prop where
  sent : s.Asks step → (s.take step).sent.length = 1
  silent : ¬ s.Asks step → (s.take step).sent = []
  current : ∀ sending ∈ (s.take step).sent, ∃ offset size o, step.page? = some (offset, size) ∧
    s.searcher.options = some o ∧ o.endpoint = some sending.endpoint ∧
    o.timeout = sending.timeout ∧ o.verify = sending.verify ∧
    (s.take (.query offset size)).outcome =
      .query ("&".intercalate (sending.parameters.map fun (name, value) => name ++ "=" ++ value))
  counted : (s.take step).session.searcher.count =
    if (s.take step).sent = [] then s.searcher.count else answer.reported?.or s.searcher.count
  vacant : (s.take step).sent ≠ [] → answer.reported? = some 0 → ∀ offset size,
    step.page? = some (offset, size) → (s.take (.get offset size)).outcome = .results []
  kept : ∀ offset size, step = .keep offset size →
    (∃ e, (s.take (.get offset size)).outcome = .failed e ∧ (s.take step).outcome = .failed e) ∨
    ∃ vs, (s.take (.get offset size)).outcome = .results vs ∧ (s.take step).outcome = .nothing ∧
      ∀ front back, later = front ++ .next s.kept.length :: back →
        (((s.take step).session.after front).take (.next s.kept.length)).outcome =
          (vs[front.countP (Step.takesFrom s.kept.length)]?).elim .exhausted .item

/-- Every step of a run is orderly, whatever steps come before and after it: one that asks for
a page sends one request and all others send none; the request goes where the options say,
with the parameters of the text that could be asked for instead; of its answer, the next one
in the queue, nothing but a number of hits changes the count; with no hits there are no
results; and all results that are kept are taken in order and one at a time. -/
theorem orderly_run (searcher : Searcher) (answers : List Answer) (before : List Step)
    (step : Step) (later : List Step) :
    (Session.of searcher answers).run (before ++ step :: later) =
        (Session.of searcher answers).run before ++
          ((Session.of searcher answers).after before).take step ::
            (((Session.of searcher answers).after before).take step).session.run later ∧
      ((Session.of searcher answers).after before).Orderly
        (answers.getD ((Session.of searcher answers).sentBy before).length default) step later := by
  refine ⟨run_append _ _ _, ?_⟩
  have hanswers := answers_after (Session.of searcher answers) before
  generalize hs : (Session.of searcher answers).after before = s at hanswers ⊢
  have hanswer : answers.getD ((Session.of searcher answers).sentBy before).length default =
      s.answers.headD default := by
    rw [hanswers, List.headD_eq_head?_getD, List.head?_drop, List.getD_eq_getElem?_getD]
    rfl
  rw [hanswer]
  constructor
  case sent =>
    intro hasks
    obtain ⟨offset, size, sending, hpage, hsending⟩ := asks_iff.1 hasks
    rw [sent_take, hpage, Option.bind_some, hsending]
    rfl
  case silent => exact sent_take_of_not_asks
  case current =>
    intro sending hmem
    obtain ⟨offset, size, hpage, hsending⟩ := mem_sent_take.1 hmem
    have htext := Searcher.queryString_of_sending hsending
    obtain ⟨o, endpoint, q, ho, hendpoint, -, -, -, rfl⟩ := Searcher.sending_eq_ok_iff.1 hsending
    refine ⟨offset, size, o, hpage, ho, hendpoint, rfl, rfl, ?_⟩
    simp only [take, htext]
  case counted => exact count_take s step
  case vacant =>
    intro hsent hreported offset size hpage
    obtain ⟨sending, hmem⟩ := List.exists_mem_of_ne_nil _ hsent
    obtain ⟨offset', size', hpage', hsending⟩ := mem_sent_take.1 hmem
    obtain ⟨rfl, rfl⟩ := Prod.mk.inj (Option.some.inj (hpage.symm.trans hpage'))
    exact outcome_get_of_reported hsending hreported
  case kept =>
    rintro offset size rfl
    rcases outcome_keep s offset size with hfailed | ⟨vs, hget, hkeep, hkept⟩
    · exact .inl hfailed
    · have hvs : (s.take (.keep offset size)).session.kept[s.kept.length]? = some vs := by
        rw [hkept, List.getElem?_concat_length]
      exact .inr ⟨vs, hget, hkeep, fun front _ _ => outcome_next_after hvs front⟩

/-- A searcher with an endpoint for a filter without constraints. -/
def boundless : Searcher :=
  .of (.empty .empty) (some { Options.standard with endpoint := some "e" }) 0 none

/-- An answer that reports two hits. -/
def twoHits : Answer :=
  .received 200 "\x7b\"hits\": \x7b\"found\": \"2\", \"hit\": [\x7b\"id\": 7\x7d]\x7d\x7d"

/-- Steps that flatten the results once and choose another endpoint. -/
def elsewhere : List Step :=
  [.addFlattening, .setOptions (some { Options.standard with endpoint := some "f" })]

/-- A run that goes to another endpoint and asks for a page there. -/
theorem orderly_run_twoHits :
    ((Session.of boundless [twoHits]).after elsewhere).Asks (.get 0 10) ∧
    (((Session.of boundless [twoHits]).after elsewhere).take (.get 0 10)).sent.length = 1 ∧
    (((Session.of boundless [twoHits]).after elsewhere).take
      (.get 0 10)).session.searcher.count = some 2 := by
  obtain ⟨-, h⟩ := orderly_run boundless [twoHits] elsewhere (.get 0 10) []
  have hasks : ((Session.of boundless [twoHits]).after elsewhere).Asks (.get 0 10) :=
    ⟨0, 10, _, "f", _, rfl, rfl, rfl, by decide, rfl, by decide +kernel, by decide +kernel⟩
  refine ⟨hasks, h.sent hasks, h.counted.trans ?_⟩
  decide +kernel

/-- The least page size that cannot be written. -/
def endlessPage : Int := (Nat.pow 10 Text.Integer.digitLimit : Nat)

/-- A filter may have a request that is not sent because the page size has too many digits. -/
theorem not_sent_endlessPage :
    boundless.options.bind Options.endpoint = some "e" ∧
    boundless.request 0 endlessPage = .ok ⟨none, none, none, endlessPage, 0⟩ ∧
    ((Session.of boundless []).take (.get 0 endlessPage)).sent.length ≠ 1 := by
  have hpos : ¬ endlessPage ≤ 0 := by
    unfold endlessPage
    generalize Text.Integer.digitLimit = limit
    exact Int.not_le.2 (Int.natCast_pos.2 (Nat.pow_pos (by decide)))
  have hlong : Text.Integer.isWritable endlessPage = false := by
    unfold Text.Integer.isWritable endlessPage
    generalize Text.Integer.digitLimit = limit
    exact decide_eq_false (Nat.lt_irrefl _)
  have hq : boundless.request 0 endlessPage = .ok ⟨none, none, none, endlessPage, 0⟩ := by
    unfold Searcher.request Request.ofFilter
    rw [if_neg (by decide), if_neg hpos]
    rfl
  refine ⟨rfl, hq, ?_⟩
  have hasks : ¬ (Session.of boundless []).Asks (.get 0 endlessPage) := by
    rintro ⟨offset, size, o, endpoint, q, hpage, -, -, -, -, -, hsize⟩
    obtain ⟨rfl, rfl⟩ := Prod.mk.inj (Option.some.inj hpage)
    cases hlong.symm.trans hsize
  rw [List.length_eq_zero_iff.2 (sent_take_of_not_asks hasks)]
  decide

end Session

end FieldedSearch.Search
