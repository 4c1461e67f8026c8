import Gatehouse.Digest.Md5
import Gatehouse.Proofs.Balance.Rings

/-!
# When a choice fails

A pool with all strategies has an answer for every selector that lists a healthy backend, with one
exception. A ring that is remembered is used again when the addresses written in order with commas
in between make the same text as before, and this text does not always tell them apart:

    put s ["a,b"]       choose by ring ──▶ "a,b"     the ring of "a,b" is remembered for s
    put s ["a", "b"]    choose by ring ──▶ nothing   the text is the same, the address is not there

Such a client is **misled** (`Misled`). A choice fails exactly if no backend is healthy or the
client is misled (`chooses_iff`), and nobody is misled where no address has a comma in it
(`not_misled_of_plain`).
-/

namespace Gatehouse.Balance

/-! ## Strategies by name -/

/-- Among all strategies every name finds one, and only its own name finds the ring. -/
theorem Strategy.exists_find?_all (name : String) :
    ∃ s, Strategy.find? Strategy.all name = some s ∧ (s = .hash ↔ name = Strategy.hash.label) := by
  rw [Strategy.find?]
  cases hfound : Strategy.all.find? fun s => s.label == name with
  | some s =>
      have hlabel := List.find?_some hfound
      obtain rfl : s.label = name := eq_of_beq hlabel
      refine ⟨s, rfl, ?_⟩
      cases s <;> decide
  | none =>
      refine ⟨.weightedRandom, rfl, iff_of_false (by decide) ?_⟩
      rintro rfl
      exact absurd hfound (by decide)

/-! ## Clients of rings -/

/-- A client of the ring is misled: the ring that is remembered for the selector was built for other
candidates, whose addresses make the same text, and gives the client an address of theirs. -/
def Misled (scatter : Scatter) (calls : List Call) (key : Key) (candidates : List Backend) : Prop :=
  key.strategy = Strategy.hash.label ∧ ∃ built url, origin? key.selector calls = some built ∧
    Ring.signatureOf built = Ring.signatureOf candidates ∧
    (Ring.build scatter built).locate (Ring.position scatter key.client) = some url ∧
    url ∉ addresses candidates

section Rings

variable {scatter : Scatter} {calls : List Call} {moment : Moment} {key : Key}
  {candidates : List Backend}

/-- Each address has a point, as long as the scatter gives it any place at all. -/
theorem exists_mem_pointsOf (hscatter : ∀ text, scatter text ≠ []) (url : String) :
    ∃ p, (p, url) ∈ Ring.pointsOf scatter url := by
  obtain ⟨p, hp⟩ := List.exists_mem_of_ne_nil _ (hscatter (url ++ "-" ++ toString 0))
  refine ⟨p, List.mem_flatMap.2 ⟨0, List.mem_range.2 (by decide), ?_⟩⟩
  exact List.mem_map_of_mem hp

/-- A ring of any backends has an address for every client, and it is one of theirs. -/
theorem exists_locate_build (hscatter : ∀ text, scatter text ≠ []) {backends : List Backend}
    (h : backends ≠ []) (here : UInt32) :
    ∃ url ∈ addresses backends, (Ring.build scatter backends).locate here = some url := by
  obtain ⟨b, hb⟩ := List.exists_mem_of_ne_nil _ h
  obtain ⟨p, hp⟩ := exists_mem_pointsOf hscatter b.url
  have hpoint := Ring.mem_points_build.2 ⟨List.mem_map_of_mem hb, hp⟩
  obtain ⟨url, hurl⟩ := Ring.exists_locate (List.ne_nil_of_mem hpoint) here
  exact ⟨url, (Ring.responsible_of_locate hurl).1, hurl⟩

/-- The ring answers with an address, and only a candidate of exactly that text can take it up. -/
theorem find?_address_eq_none_iff {url : String} :
    candidates.find? (fun b => b.url == url) = none ↔ url ∉ addresses candidates := by
  rw [List.find?_eq_none, addresses, List.mem_map]
  simp

/-- **On a ring** nothing is picked exactly if the client is misled. -/
theorem pick_hash_eq_none_iff (hscatter : ∀ text, scatter text ≠ []) (hne : candidates ≠ [])
    (hkey : key.strategy = Strategy.hash.label) :
    (pick scatter .hash moment (Memory.empty.afterAll scatter calls) key candidates).1 = none ↔
      Misled scatter calls key candidates := by
  rw [pick_hash scatter calls moment key hne]
  constructor
  · intro hnone
    have hanswering : answering (origin? key.selector calls) candidates ≠ [] := by
      rcases answering_eq_or (origin? key.selector calls) candidates with hbuilt | heq
      · exact (exists_call_of_origin? hbuilt).1
      · rwa [heq]
    obtain ⟨url, hurl, hlocate⟩ := exists_locate_build hscatter hanswering
      (Ring.position scatter key.client)
    rw [hlocate, Option.bind_some, find?_address_eq_none_iff] at hnone
    -- a ring built for the candidates themselves would have given an address of theirs
    rcases answering_eq_or (origin? key.selector calls) candidates with hbuilt | heq
    · exact ⟨hkey, _, url, hbuilt, signatureOf_answering _ _, hlocate, hnone⟩
    · rw [heq] at hurl
      exact absurd hurl hnone
  · rintro ⟨-, built, url, hbuilt, hsignature, hlocate, hurl⟩
    have hanswering : answering (some built) candidates = built := by
      rw [answering, Option.filter_some, if_pos (decide_eq_true hsignature), Option.getD_some]
    rw [hbuilt, hanswering, hlocate, Option.bind_some]
    exact find?_address_eq_none_iff.2 hurl

/-- **A strategy picks nothing** exactly if it is the ring and the client is misled. -/
theorem pick_eq_none_iff (hscatter : ∀ text, scatter text ≠ []) (hne : candidates ≠ [])
    {s : Strategy} (hs : s = .hash ↔ key.strategy = Strategy.hash.label) :
    (pick scatter s moment (Memory.empty.afterAll scatter calls) key candidates).1 = none ↔
      Misled scatter calls key candidates := by
  by_cases hname : key.strategy = Strategy.hash.label
  · rw [hs.2 hname]
    exact pick_hash_eq_none_iff hscatter hne hname
  · obtain ⟨b, hb⟩ := exists_pick (mt hs.1 hname) hne scatter moment
      (Memory.empty.afterAll scatter calls) key
    rw [hb]
    exact iff_of_false nofun fun h => hname h.1

/-- Nobody is misled if the addresses can be told apart in one text. -/
theorem not_misled_of_calls (hcalls : ∀ call ∈ calls, call.Plain) (hne : candidates ≠ [])
    (hplain : ∀ url ∈ addresses candidates, Ring.Plain url) :
    ¬ Misled scatter calls key candidates := by
  rintro ⟨-, built, url, hbuilt, hsignature, hlocate, hurl⟩
  obtain ⟨hbuiltne, call, hcall, rfl⟩ := exists_call_of_origin? hbuilt
  have hperm := Ring.perm_of_signatureOf_eq hsignature hbuiltne hne (hcalls call hcall) hplain
  exact hurl (hperm.mem_iff.1 (Ring.responsible_of_locate hlocate).1)

end Rings

namespace Pool

variable {scatter : Scatter} {p : Pool} {ops : List Op} {moment : Moment} {selector : String}
  {key : Key}

/-! ## What a pool asks of the strategies -/

/-- The calls that an operation on a pool makes. -/
def callsOf (p : Pool) : Op → List Call
  | .put selector backends => if backends = [] then [.forget selector] else []
  | .remove selector => [.forget selector]
  | .report _ _ => []
  | .choose moment selector key =>
    match p.candidates selector, Strategy.find? p.strategies key.strategy with
    | [], _ | _, none => []
    | candidates, some s => [.pick s moment key candidates]

/-- The calls that some operations on a pool make, one after the other. -/
def calls (scatter : Scatter) (p : Pool) : List Op → List Call
  | [] => []
  | op :: ops => p.callsOf op ++ (p.after scatter op).calls scatter ops

/-- All that an operation does to the memory it does by the calls that it makes. -/
theorem memory_after (op : Op) :
    (p.after scatter op).memory = p.memory.afterAll scatter (p.callsOf op) := by
  cases op with
  | put selector backends =>
      rw [after, memory_put, callsOf]
      split <;> rfl
  | remove selector => rfl
  | report url healthy => rfl
  | choose moment selector key =>
      rw [after, callsOf]
      cases hcandidates : p.candidates selector with
      | nil =>
          rw [choose_of_no_candidates hcandidates]
          rfl
      | cons b bs =>
          have hne : p.candidates selector ≠ [] := hcandidates ▸ List.cons_ne_nil b bs
          cases hs : Strategy.find? p.strategies key.strategy with
          | none =>
              rw [choose_of_no_strategy hs]
              rfl
          | some s =>
              rw [snd_choose hne hs, hcandidates]
              rfl

/-- **What strategies remember** in a pool is what they remember of the calls. -/
theorem memory_afterAll (p : Pool) (ops : List Op) :
    (p.afterAll scatter ops).memory = p.memory.afterAll scatter (p.calls scatter ops) := by
  induction ops generalizing p with
  | nil => rfl
  | cons op ops ih =>
      rw [calls, Memory.afterAll, List.foldl_append]
      have hrest := ih (p.after scatter op)
      rwa [memory_after] at hrest

/-- A pool with all strategies after some operations. -/
def grown (scatter : Scatter) (ops : List Op) : Pool := (empty Strategy.all).afterAll scatter ops

/-- The calls that have been made in it. -/
def made (scatter : Scatter) (ops : List Op) : List Call := (empty Strategy.all).calls scatter ops

/-! ## Addresses without commas -/

/-- No address of a pool has a comma in it. -/
def Plain (p : Pool) : Prop := ∀ selector, ∀ b ∈ p.of selector, Ring.Plain b.url

end Pool

/-- An operation gives no selector an address with a comma in it. -/
def Op.Plain (op : Op) : Prop :=
  ∀ selector backends, op.given? selector = some backends → ∀ b ∈ backends, Ring.Plain b.url

namespace Pool

variable {scatter : Scatter} {p : Pool} {ops : List Op} {moment : Moment} {selector : String}
  {key : Key}

/-- A pool lists only what it was given, so its addresses stay plain. -/
theorem Plain.after (h : p.Plain) {op : Op} (hop : op.Plain) : (p.after scatter op).Plain := by
  intro selector b hb
  rw [of_after] at hb
  cases hgiven : op.given? selector with
  | some backends =>
      rw [hgiven] at hb
      exact hop selector backends hgiven b hb
  | none =>
      rw [hgiven] at hb
      obtain ⟨c, hc, rfl⟩ := List.mem_map.1 hb
      exact h selector c hc

theorem Plain.candidates (h : p.Plain) (selector : String) :
    ∀ url ∈ addresses (p.candidates selector), Ring.Plain url := by
  intro url hurl
  obtain ⟨b, hb, rfl⟩ := List.mem_map.1 hurl
  exact h selector b (mem_candidates_iff.1 hb).1

theorem Plain.callsOf (h : p.Plain) (op : Op) : ∀ call ∈ p.callsOf op, call.Plain := by
  intro call hcall
  cases op with
  | put selector backends =>
      rw [Pool.callsOf] at hcall
      split at hcall
      · obtain rfl := List.mem_singleton.1 hcall
        exact List.forall_mem_nil _
      · cases hcall
  | remove selector =>
      obtain rfl := List.mem_singleton.1 hcall
      exact List.forall_mem_nil _
  | report url healthy => cases hcall
  | choose moment selector key =>
      rw [Pool.callsOf] at hcall
      split at hcall
      · cases hcall
      · cases hcall
      · obtain rfl := List.mem_singleton.1 hcall
        exact h.candidates selector

/-- A run over plain pools makes plain calls only, which is what its rings are built from. -/
theorem Plain.calls (h : p.Plain) (hops : ∀ op ∈ ops, op.Plain) :
    (∀ call ∈ p.calls scatter ops, call.Plain) ∧ (p.afterAll scatter ops).Plain := by
  induction ops generalizing p with
  | nil => exact ⟨List.forall_mem_nil _, h⟩
  | cons op ops ih =>
      obtain ⟨hop, hops⟩ := List.forall_mem_cons.1 hops
      obtain ⟨hcalls, hafter⟩ := ih (h.after hop) hops
      exact ⟨List.forall_mem_append.2 ⟨h.callsOf op, hcalls⟩, hafter⟩

theorem plain_empty (strategies : List Strategy) : (empty strategies).Plain :=
  fun _ => List.forall_mem_nil _

/-- **Without commas nobody is misled.** -/
theorem not_misled_of_plain (hops : ∀ op ∈ ops, op.Plain)
    (hne : (grown scatter ops).candidates selector ≠ []) (key : Key) :
    ¬ Misled scatter (made scatter ops) key ((grown scatter ops).candidates selector) := by
  obtain ⟨hcalls, hafter⟩ := (plain_empty Strategy.all).calls hops
  exact not_misled_of_calls hcalls hne (hafter.candidates selector)

/-! ## Answers -/

/-- There is something to choose from exactly where a healthy backend is listed. -/
theorem candidates_ne_nil_iff :
    p.candidates selector ≠ [] ↔ ∃ b ∈ p.of selector, b.healthy = true := by
  simp [candidates, List.filter_eq_nil_iff]

/-- A choice has an answer, or else it says that there is no backend for the selector. -/
theorem ok_or_noBackend : (∃ b, (p.choose scatter moment selector key).1 = .ok b) ∨
    (p.choose scatter moment selector key).1 = .error (.noBackend selector) := by
  by_cases hne : p.candidates selector = []
  · exact Or.inr (by rw [choose_of_no_candidates hne])
  · cases hs : Strategy.find? p.strategies key.strategy with
    | none => exact Or.inr (by rw [choose_of_no_strategy hs])
    | some s =>
        rw [fst_choose hne hs]
        cases (pick scatter s moment p.memory key (p.candidates selector)).1 with
        | none => exact Or.inr rfl
        | some b => exact Or.inl ⟨b, rfl⟩

/-- **With candidates** a choice fails exactly if the client is misled. -/
theorem choose_fails_iff (hscatter : ∀ text, scatter text ≠ [])
    (hne : (grown scatter ops).candidates selector ≠ []) (moment : Moment) (key : Key) :
    ((grown scatter ops).choose scatter moment selector key).1 = .error (.noBackend selector) ↔
      Misled scatter (made scatter ops) key ((grown scatter ops).candidates selector) := by
  obtain ⟨s, hs, hhash⟩ := Strategy.exists_find?_all key.strategy
  have hstrategies : (grown scatter ops).strategies = Strategy.all := strategies_afterAll _ ops
  have hmemory : (grown scatter ops).memory = Memory.empty.afterAll scatter (made scatter ops) :=
    memory_afterAll _ ops
  rw [fst_choose hne (hstrategies ▸ hs), hmemory, ← pick_eq_none_iff hscatter hne hhash]
  cases (pick scatter s moment _ key _).1 <;> simp

/-- **A choice succeeds exactly if** the selector lists a healthy backend and the client is not
misled, and fails exactly otherwise, saying that there is no backend. Where no address has a comma
in it a healthy backend is all it takes. -/
theorem chooses_iff {scatter : Scatter} (hscatter : ∀ text, scatter text ≠ []) (ops : List Op)
    (moment : Moment) (selector : String) (key : Key) :
    let p := grown scatter ops
    let answer := (p.choose scatter moment selector key).1
    let misled := Misled scatter (made scatter ops) key (p.candidates selector)
    ((∃ b, answer = .ok b) ↔ (∃ b ∈ p.of selector, b.healthy = true) ∧ ¬ misled) ∧
    (answer = .error (.noBackend selector) ↔
      (¬ ∃ b ∈ p.of selector, b.healthy = true) ∨ misled) ∧
    ((∀ op ∈ ops, op.Plain) →
      ((∃ b, answer = .ok b) ↔ ∃ b ∈ p.of selector, b.healthy = true)) := by
  intro p answer misled
  have hfails : answer = .error (.noBackend selector) ↔
      (¬ ∃ b ∈ p.of selector, b.healthy = true) ∨ misled := by
    rw [← candidates_ne_nil_iff, not_not]
    by_cases hne : p.candidates selector = []
    · have hnone : answer = .error (.noBackend selector) :=
        congrArg Prod.fst (choose_of_no_candidates hne)
      exact iff_of_true hnone (Or.inl hne)
    · rw [or_iff_right hne]
      exact choose_fails_iff hscatter hne moment key
  -- a choice does one of two things, so the second statement is the first one turned round
  have hok : (∃ b, answer = .ok b) ↔ (∃ b ∈ p.of selector, b.healthy = true) ∧ ¬ misled := by
    rw [← not_not (a := ∃ b ∈ p.of selector, b.healthy = true), ← not_or, ← hfails]
    constructor
    · rintro ⟨b, hb⟩
      rw [hb]
      exact nofun
    · exact ok_or_noBackend.resolve_right
  refine ⟨hok, hfails, fun hplain => hok.trans (and_iff_left_of_imp fun hup => ?_)⟩
  exact not_misled_of_plain hplain (candidates_ne_nil_iff.2 hup) key

theorem plain_flappingRun : ∀ op ∈ flappingRun, op.Plain := by
  intro op hop selector backends hgiven
  simp only [flappingRun, List.mem_cons, List.not_mem_nil, or_false] at hop
  rcases hop with rfl | rfl | rfl | rfl | rfl
  · rw [Op.given?] at hgiven
    split at hgiven
    · obtain rfl := Option.some.inj hgiven
      unfold Ring.Plain
      decide
    · cases hgiven
  all_goals cases hgiven

/-- A client of the ring is served again after the backend that served it has gone down. -/
theorem chooses_iff_flapping : (∀ text, Digest.Md5.ofText text ≠ []) ∧
    (∀ op ∈ flappingRun, op.Plain) ∧
    ∃ b, ((grown Digest.Md5.ofText flappingRun).choose Digest.Md5.ofText ⟨0, 0, 0⟩ "s"
      ⟨"10.0.0.1", "s", "hash"⟩).1 = .ok b := by
  have hup : ∃ b ∈ (grown Digest.Md5.ofText flappingRun).of "s", b.healthy = true := by
    rw [grown, of_afterAll]
    decide
  obtain ⟨-, -, hplain⟩ := chooses_iff Digest.Md5.ofText_ne_nil flappingRun ⟨0, 0, 0⟩ "s"
    ⟨"10.0.0.1", "s", "hash"⟩
  exact ⟨Digest.Md5.ofText_ne_nil, plain_flappingRun, (hplain plain_flappingRun).2 hup⟩

/-- A backend with a comma in its address is replaced by two whose addresses are its parts. -/
def partedRun : List Op :=
  [.put "s" [backendAt "a,b"], .choose ⟨0, 0, 0⟩ "s" ⟨"10.0.0.1", "s", "hash"⟩,
    .put "s" [backendAt "a", backendAt "b"]]

/-- At the end both backends are healthy, although neither is the one that the ring knows. -/
theorem candidates_partedRun (scatter : Scatter) :
    (grown scatter partedRun).candidates "s" = [backendAt "a", backendAt "b"] := by
  rw [candidates, grown, of_afterAll]
  decide

/-- Of the two healthy backends none is chosen. -/
theorem not_chooses : ¬ ∀ (ops : List Op) (moment : Moment) (selector : String) (key : Key),
    (∃ b ∈ (grown Digest.Md5.ofText ops).of selector, b.healthy = true) →
      ∃ b, ((grown Digest.Md5.ofText ops).choose Digest.Md5.ofText moment selector key).1 =
        .ok b := by
  intro h
  have hcandidates := candidates_partedRun Digest.Md5.ofText
  have hne : (grown Digest.Md5.ofText partedRun).candidates "s" ≠ [] :=
    hcandidates ▸ List.cons_ne_nil _ _
  have hmisled : Misled Digest.Md5.ofText (made Digest.Md5.ofText partedRun)
      ⟨"10.0.0.1", "s", "hash"⟩ ((grown Digest.Md5.ofText partedRun).candidates "s") := by
    rw [hcandidates]
    -- wherever the points of the remembered ring are, they are all of its one address
    obtain ⟨url, hurl, hlocate⟩ := exists_locate_build Digest.Md5.ofText_ne_nil
      (List.cons_ne_nil (backendAt "a,b") []) (Ring.position Digest.Md5.ofText "10.0.0.1")
    obtain rfl := List.mem_singleton.1 hurl
    have hsignature : Ring.signatureOf [backendAt "a,b"] =
        Ring.signatureOf [backendAt "a", backendAt "b"] := by
      rw [Ring.signatureOf_of_sorted (by decide), Ring.signatureOf_of_sorted (by decide)]
      decide
    exact ⟨rfl, [backendAt "a,b"], "a,b", rfl, hsignature, hlocate, by decide⟩
  obtain ⟨b, hb⟩ := h partedRun ⟨0, 0, 0⟩ "s" ⟨"10.0.0.1", "s", "hash"⟩
    (candidates_ne_nil_iff.1 hne)
  rw [(choose_fails_iff Digest.Md5.ofText_ne_nil hne _ _).2 hmisled] at hb
  cases hb

end Pool

end Gatehouse.Balance
