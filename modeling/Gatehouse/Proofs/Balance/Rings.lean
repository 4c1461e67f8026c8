import Gatehouse.Proofs.Balance.Runs

/-!
# Rings and memberships

A client is served by the address whose point is the nearest one ahead of its own position, going
up and, past the last position, on from zero:

    0 ──────── v ──── client ──────── u ──── w ──── v ──────── 2^32
               4th                    1st    2nd    3rd

Which address that is depends on the addresses alone, in whatever order and however often they are
listed (`Responsible`). One that is nearest among some stays nearest among fewer, and gives way only
to one that is new. So **clients move only where they have to** (`picked_steady`): of two calls,
with any others in between, each for candidates of its own, the second gives a client the same
address as the first unless one of the two addresses was not there at the other call.

Rings are remembered, and found again by the addresses written in order with commas in between. This
text stands for the addresses if none of them has a comma in it (`perm_of_signatureOf_eq`).
-/

namespace Gatehouse.Balance

/-- The addresses of some backends. -/
def addresses (backends : List Backend) : List String := backends.map Backend.url

namespace Ring

variable {scatter : Scatter} {here p q : UInt32} {url u v : String}

/-! ## Going round -/

/-- How far a point is ahead of a position. -/
def ahead (here point : UInt32) : Nat := (point - here).toNat

theorem ahead_of_le (h : here ≤ p) : ahead here p = p.toNat - here.toNat :=
  UInt32.toNat_sub_of_le p here h

theorem ahead_of_lt (h : p < here) : ahead here p = UInt32.size - here.toNat + p.toNat := by
  rw [UInt32.lt_iff_toNat_lt] at h
  have hhere := here.toNat_lt
  rw [ahead, UInt32.toNat_sub, Nat.mod_eq_of_lt (by omega)]

/-- No two positions are equally far ahead, so the nearest point is at one position only. -/
theorem ahead_injective (h : ahead here p = ahead here q) : p = q :=
  (UInt32.sub_left_inj here).1 (UInt32.toNat_inj.1 h)

/-- Among the points at or after a position the lowest is nearest, and any of them is nearer than
a point before it. -/
theorem ahead_le_of_le (hp : here ≤ p) (hq : here ≤ q → p ≤ q) : ahead here p ≤ ahead here q := by
  rw [ahead_of_le hp]
  by_cases h : here ≤ q
  · rw [ahead_of_le h]
    exact Nat.sub_le_sub_right (UInt32.le_iff_toNat_le.1 (hq h)) _
  · rw [ahead_of_lt (UInt32.not_le.1 h)]
    have hpoint := p.toNat_lt_size
    omega

/-- If all points are before a position the lowest is nearest. -/
theorem ahead_le_of_lt (hq : q < here) (hpq : p ≤ q) : ahead here p ≤ ahead here q := by
  rw [ahead_of_lt hq, ahead_of_lt (UInt32.lt_of_le_of_lt hpq hq)]
  exact Nat.add_le_add_left (UInt32.le_iff_toNat_le.1 hpq) _

/-! ## The lowest point -/

theorem lowest?_eq_none_iff {points : List (UInt32 × String)} :
    lowest? points = none ↔ points = [] := by
  cases points with
  | nil => simp [lowest?]
  | cons p points =>
      rw [lowest?]
      cases lowest? points with
      | none => simp
      | some q =>
          simp only
          split <;> simp

/-- What is found is a point, and none is lower. -/
theorem lowest?_spec {points : List (UInt32 × String)} {p : UInt32 × String}
    (h : lowest? points = some p) : p ∈ points ∧ ∀ q ∈ points, p.1 ≤ q.1 := by
  induction points generalizing p with
  | nil => cases h
  | cons r points ih =>
      rw [lowest?] at h
      cases hrest : lowest? points with
      | none =>
          rw [hrest] at h
          obtain rfl : r = p := Option.some.inj h
          obtain rfl := lowest?_eq_none_iff.1 hrest
          simp
      | some s =>
          obtain ⟨hs, hle⟩ := ih hrest
          rw [hrest] at h
          simp only at h
          split at h
          · next hlt =>
              obtain rfl : r = p := Option.some.inj h
              refine ⟨List.mem_cons_self, List.forall_mem_cons.2 ⟨UInt32.le_refl _, ?_⟩⟩
              exact fun q hq => UInt32.le_trans (UInt32.le_of_lt hlt) (hle q hq)
          · next hlt =>
              obtain rfl : s = p := Option.some.inj h
              refine ⟨List.mem_cons_of_mem r hs, List.forall_mem_cons.2 ⟨?_, hle⟩⟩
              exact UInt32.not_lt.1 hlt

/-! ## Responsible addresses -/

/-- A ring with any points has an address for each position. -/
theorem exists_locate {r : Ring} (h : r.points ≠ []) (here : UInt32) :
    ∃ url, r.locate here = some url := by
  obtain ⟨p, hp⟩ := Option.ne_none_iff_exists'.1 (mt lowest?_eq_none_iff.1 h)
  rw [locate, hp]
  cases lowest? (r.points.filter fun p => here ≤ p.1) with
  | none => exact ⟨p.2, rfl⟩
  | some q => exact ⟨q.2, rfl⟩

/-- A point is located that is at least as near ahead as all others. -/
theorem nearest_of_locate {r : Ring} (h : r.locate here = some url) :
    ∃ p, (p, url) ∈ r.points ∧ ∀ q ∈ r.points, ahead here p ≤ ahead here q.1 := by
  obtain ⟨⟨p, url⟩, hfound, rfl⟩ := Option.map_eq_some_iff.1 h
  rcases Option.or_eq_some_iff.1 hfound with hafter | ⟨hafter, hall⟩
  · obtain ⟨hmem, hlowest⟩ := lowest?_spec hafter
    obtain ⟨hmem, hp⟩ := List.mem_filter.1 hmem
    refine ⟨p, hmem, fun q hq => ahead_le_of_le (of_decide_eq_true hp) fun hle => ?_⟩
    exact hlowest q (List.mem_filter.2 ⟨hq, decide_eq_true hle⟩)
  · obtain ⟨hmem, hlowest⟩ := lowest?_spec hall
    refine ⟨p, hmem, fun q hq => ahead_le_of_lt (UInt32.not_le.1 fun hle => ?_) (hlowest q hq)⟩
    -- there would have been a point at or after the position
    have hnil := lowest?_eq_none_iff.1 hafter
    exact List.filter_eq_nil_iff.1 hnil q hq (decide_eq_true hle)

theorem snd_of_mem_pointsOf (h : (p, v) ∈ pointsOf scatter u) : v = u := by
  obtain ⟨i, -, hi⟩ := List.mem_flatMap.1 h
  obtain ⟨position, -, heq⟩ := List.mem_map.1 hi
  exact (congrArg Prod.snd heq).symm

theorem mem_points_build {backends : List Backend} : (p, u) ∈ (build scatter backends).points ↔
    u ∈ addresses backends ∧ (p, u) ∈ pointsOf scatter u := by
  constructor
  · intro h
    obtain ⟨b, hb, hp⟩ := List.mem_flatMap.1 h
    obtain rfl := snd_of_mem_pointsOf hp
    exact ⟨List.mem_map_of_mem hb, hp⟩
  · rintro ⟨hu, hp⟩
    obtain ⟨b, hb, rfl⟩ := List.mem_map.1 hu
    exact List.mem_flatMap.2 ⟨b, hb, hp⟩

/-- An address is responsible for a position among some addresses if one of its points is as near
ahead as any point of any of them. -/
def Responsible (scatter : Scatter) (urls : List String) (here : UInt32) (url : String) : Prop :=
  url ∈ urls ∧ ∃ p, (p, url) ∈ pointsOf scatter url ∧
    ∀ other ∈ urls, ∀ q, (q, other) ∈ pointsOf scatter other → ahead here p ≤ ahead here q

/-- No two of some addresses have a point in the same place. -/
def Apart (scatter : Scatter) (urls : List String) : Prop :=
  ∀ u ∈ urls, ∀ v ∈ urls, ∀ p, (p, u) ∈ pointsOf scatter u → (p, v) ∈ pointsOf scatter v → u = v

theorem Apart.mono {urls urls' : List String} (h : Apart scatter urls)
    (hurls : ∀ u ∈ urls', u ∈ urls) : Apart scatter urls' :=
  fun u hu v hv => h u (hurls u hu) v (hurls v hv)

/-- What is found on a ring is responsible for the position: no point is nearer ahead. -/
theorem responsible_of_locate {backends : List Backend}
    (h : (build scatter backends).locate here = some url) :
    Responsible scatter (addresses backends) here url := by
  obtain ⟨p, hp, hnearest⟩ := nearest_of_locate h
  obtain ⟨hurl, hpoint⟩ := mem_points_build.1 hp
  refine ⟨hurl, p, hpoint, fun other hother q hq => ?_⟩
  exact hnearest (q, other) (mem_points_build.2 ⟨hother, hq⟩)

namespace Responsible

variable {urls urls' : List String}

theorem exists_point (h : Responsible scatter urls here u) : ∃ p, (p, u) ∈ pointsOf scatter u :=
  h.2.imp fun _ hp => hp.1

/-- Order and repetitions do not matter. -/
theorem congr (h : Responsible scatter urls here u) (hurls : ∀ u, u ∈ urls ↔ u ∈ urls') :
    Responsible scatter urls' here u := by
  obtain ⟨hu, p, hp, hnearest⟩ := h
  exact ⟨(hurls u).1 hu, p, hp, fun other hother => hnearest other ((hurls other).2 hother)⟩

/-- **Two addresses that are both there** among both sets of addresses are not responsible for the
same position, one among the one and the other among the other. -/
theorem unique (h : Responsible scatter urls here u) (h' : Responsible scatter urls' here v)
    (hapart : Apart scatter (urls ++ urls')) (hu : u ∈ urls') (hv : v ∈ urls) : u = v := by
  obtain ⟨-, p, hp, hnearest⟩ := h
  obtain ⟨-, q, hq, hnearest'⟩ := h'
  -- each of the two points is among those that the other one was compared with
  have hpq : p = q :=
    ahead_injective (Nat.le_antisymm (hnearest v hv q hq) (hnearest' u hu p hp))
  subst hpq
  exact hapart u (List.mem_append_right urls hu) v (List.mem_append_left urls' hv) p hp hq

end Responsible

/-! ## Signatures -/

/-- The text that stands for some addresses can be read back. -/
def Plain (url : String) : Prop := ',' ∉ url.toList

theorem signatureOf_toList (backends : List Backend) : (signatureOf backends).toList =
    [','].intercalate (((addresses backends).mergeSort fun a b => decide (a ≤ b)).map
      String.toList) := String.toList_intercalate

theorem signatureOf_of_sorted {backends : List Backend}
    (h : (addresses backends).Pairwise (· ≤ ·)) :
    signatureOf backends = ",".intercalate (addresses backends) :=
  congrArg (String.intercalate ",")
    (List.mergeSort_of_pairwise (h.imp fun hle => decide_eq_true hle))

/-- Without commas in the addresses the signature can be taken apart again. -/
theorem splitOn_signatureOf {backends : List Backend} (h : backends ≠ [])
    (hplain : ∀ url ∈ addresses backends, Plain url) : (signatureOf backends).toList.splitOn ',' =
      ((addresses backends).mergeSort fun a b => decide (a ≤ b)).map String.toList := by
  rw [signatureOf_toList]
  apply List.splitOn_intercalate
  · intro text htext
    obtain ⟨url, hurl, rfl⟩ := List.mem_map.1 htext
    exact hplain url (List.mem_mergeSort.1 hurl)
  · intro hnil
    have hlength := congrArg List.length hnil
    rw [List.length_map, List.length_mergeSort, addresses, List.length_map] at hlength
    exact h (List.length_eq_zero_iff.1 hlength)

/-- **Equal signatures** are of the same addresses, if none has a comma in it. -/
theorem perm_of_signatureOf_eq {as bs : List Backend} (h : signatureOf as = signatureOf bs)
    (has : as ≠ []) (hbs : bs ≠ []) (hplain : ∀ url ∈ addresses as, Plain url)
    (hplain' : ∀ url ∈ addresses bs, Plain url) : (addresses as).Perm (addresses bs) := by
  have htexts := splitOn_signatureOf has hplain
  rw [h, splitOn_signatureOf hbs hplain'] at htexts
  have hsorted := (List.map_inj_right fun _ _ => String.toList_inj.1).1 htexts
  have hperm := List.mergeSort_perm (addresses bs) fun a b => decide (a ≤ b)
  rw [hsorted] at hperm
  exact (List.mergeSort_perm _ _).symm.trans hperm

end Ring

/-! ## Calls -/

/-- A call of a strategy. -/
inductive Call where
  | pick (s : Strategy) (moment : Moment) (key : Key) (candidates : List Backend)
  | forget (selector : String)

namespace Memory

variable {scatter : Scatter}

def after (scatter : Scatter) (m : Memory) : Call → Memory
  | .pick s moment key candidates => (pick scatter s moment m key candidates).2
  | .forget selector => m.forget selector

def afterAll (scatter : Scatter) (m : Memory) (calls : List Call) : Memory :=
  calls.foldl (after scatter) m

end Memory

/-- The candidates whose ring answers for some candidates: those for which the remembered ring was
built, if their addresses make the same text. -/
def answering (built : Option (List Backend)) (candidates : List Backend) : List Backend :=
  (built.filter fun bs => Ring.signatureOf bs = Ring.signatureOf candidates).getD candidates

/-- Either the backends of the remembered ring still stand for the candidates, or a ring is built
anew. -/
theorem answering_eq_or (built : Option (List Backend)) (candidates : List Backend) :
    built = some (answering built candidates) ∨ answering built candidates = candidates := by
  cases built with
  | none => exact Or.inr rfl
  | some bs =>
      rw [answering, Option.filter_some]
      split
      · exact Or.inl rfl
      · exact Or.inr rfl

/-- Whoever answers has the signature of the candidates. -/
theorem signatureOf_answering (built : Option (List Backend)) (candidates : List Backend) :
    Ring.signatureOf (answering built candidates) = Ring.signatureOf candidates := by
  cases built with
  | none => rfl
  | some bs =>
      rw [answering, Option.filter_some]
      split
      · next h => exact of_decide_eq_true h
      · rfl

def Call.candidates : Call → List Backend
  | .pick _ _ _ candidates => candidates
  | .forget _ => []

/-- The candidates for which the ring of a selector was built that is remembered after a call. -/
def Call.origin? (selector : String) (built : Option (List Backend)) : Call → Option (List Backend)
  | .pick .hash _ key candidates =>
    if selector = key.selector ∧ candidates ≠ [] then some (answering built candidates) else built
  | .pick _ _ _ _ => built
  | .forget s => if selector = s then none else built

/-- The candidates for which the ring of a selector was built that is remembered after some
calls. -/
def origin? (selector : String) (calls : List Call) : Option (List Backend) :=
  calls.foldl (Call.origin? selector) none

section Remembered

variable {scatter : Scatter} {m : Memory} {selector : String} {built : Option (List Backend)}
  {candidates : List Backend}

theorem ringFor_eq (h : m.rings.get? selector = built.map (Ring.build scatter)) :
    ringFor scatter m selector candidates = Ring.build scatter (answering built candidates) := by
  rw [ringFor, h]
  cases built with
  | none => rfl
  | some bs =>
      show (if Ring.signatureOf bs = _ then _ else _) = _
      rw [answering, Option.filter_some]
      by_cases hsignature : Ring.signatureOf bs = Ring.signatureOf candidates
      · simp [hsignature]
      · simp [hsignature]

/-- **One call** keeps track of what the ring of a selector was built for. -/
theorem rings_after (h : m.rings.get? selector = built.map (Ring.build scatter)) (call : Call) :
    (m.after scatter call).rings.get? selector =
      (call.origin? selector built).map (Ring.build scatter) := by
  cases call with
  | forget s =>
      rw [Memory.after, Memory.forget, Table.get?_erase, Call.origin?, h]
      split <;> rfl
  | pick s moment key candidates =>
      cases candidates with
      | nil => cases s <;> simp [Memory.after, pick, Call.origin?, h]
      | cons b bs =>
          cases s with
          | random | weightedRandom | roundRobin => exact h
          | hash =>
              show (m.rings.insert key.selector _).get? selector = _
              rw [Table.get?_insert, Call.origin?]
              by_cases hkey : selector = key.selector
              · subst hkey
                simp [ringFor_eq h]
              · simp [hkey, h]

/-- The remembered ring is the one of the latest call that had to build one. -/
theorem rings_afterAll (scatter : Scatter) (selector : String) (calls : List Call) :
    (Memory.empty.afterAll scatter calls).rings.get? selector =
      (origin? selector calls).map (Ring.build scatter) := by
  -- from any memory whose ring was built for what it is taken to be
  have hrun : ∀ {m : Memory} {built}, m.rings.get? selector = built.map (Ring.build scatter) →
      (m.afterAll scatter calls).rings.get? selector =
        (calls.foldl (Call.origin? selector) built).map (Ring.build scatter) := by
    induction calls with
    | nil => exact fun h => h
    | cons call calls ih => exact fun h => ih (rings_after h call)
  exact hrun rfl

/-- A call leaves what the ring was built for as it is, or builds one for its own candidates. -/
theorem eq_or_of_origin?_call {call : Call} {bs : List Backend}
    (h : call.origin? selector built = some bs) :
    built = some bs ∨ bs ≠ [] ∧ call.candidates = bs := by
  cases call with
  | forget s =>
      rw [Call.origin?] at h
      split at h
      · cases h
      · exact Or.inl h
  | pick s moment key candidates =>
      cases s with
      | random | weightedRandom | roundRobin => exact Or.inl h
      | hash =>
          rw [Call.origin?] at h
          split at h
          · next hkey =>
              obtain rfl := Option.some.inj h
              rcases answering_eq_or built candidates with hbuilt | heq
              · exact Or.inl hbuilt
              · rw [heq]
                exact Or.inr ⟨hkey.2, rfl⟩
          · exact Or.inl h

/-- A ring that is remembered was built for the candidates of one of the calls. -/
theorem exists_call_of_origin? {calls : List Call} {bs : List Backend}
    (h : origin? selector calls = some bs) :
    bs ≠ [] ∧ ∃ call ∈ calls, call.candidates = bs := by
  induction calls using List.reverseRecOn with
  | nil => cases h
  | append_singleton calls call ih =>
      rw [origin?, List.foldl_append] at h
      rcases eq_or_of_origin?_call h with hbuilt | ⟨hne, hcall⟩
      · obtain ⟨hne, other, hother, heq⟩ := ih hbuilt
        exact ⟨hne, other, List.mem_append_left _ hother, heq⟩
      · exact ⟨hne, call, List.mem_append_right _ (List.mem_singleton_self call), hcall⟩

end Remembered

/-! ## Picking on a ring -/

/-- A call whose addresses can be told apart in one text. -/
def Call.Plain (call : Call) : Prop := ∀ url ∈ addresses call.candidates, Ring.Plain url

section Picking

variable {scatter : Scatter} {calls : List Call} {candidates : List Backend}

/-- The ring that answers was built for the same addresses. -/
theorem perm_answering (hcalls : ∀ call ∈ calls, call.Plain) (hne : candidates ≠ [])
    (hplain : ∀ url ∈ addresses candidates, Ring.Plain url) (selector : String) :
    (addresses (answering (origin? selector calls) candidates)).Perm (addresses candidates) := by
  rcases answering_eq_or (origin? selector calls) candidates with hbuilt | heq
  · obtain ⟨hbuilt, call, hcall, hcandidates⟩ := exists_call_of_origin? hbuilt
    exact Ring.perm_of_signatureOf_eq (signatureOf_answering _ _) hbuilt hne
      (hcandidates ▸ hcalls call hcall) hplain
  · rw [heq]

/-- A choice by hash takes the candidate that the answering ring names, if it is one. -/
theorem pick_hash (scatter : Scatter) (calls : List Call) (moment : Moment) (key : Key)
    (hne : candidates ≠ []) :
    (pick scatter .hash moment (Memory.empty.afterAll scatter calls) key candidates).1 =
      ((Ring.build scatter (answering (origin? key.selector calls) candidates)).locate
        (Ring.position scatter key.client)).bind fun url =>
          candidates.find? fun b => b.url == url := by
  rw [← ringFor_eq (rings_afterAll scatter key.selector calls)]
  cases candidates with
  | nil => exact absurd rfl hne
  | cons b bs => rfl

/-- The address that a client is given in a call for some candidates, after some other calls. -/
def picked (scatter : Scatter) (calls : List Call) (moment : Moment) (key : Key)
    (candidates : List Backend) : Option String :=
  (pick scatter .hash moment (Memory.empty.afterAll scatter calls) key candidates).1.map Backend.url

variable {moment : Moment} {key : Key}

/-- **The client gets the responsible address**, whatever rings are remembered. -/
theorem responsible_of_picked (hcalls : ∀ call ∈ calls, call.Plain)
    (hplain : ∀ url ∈ addresses candidates, Ring.Plain url) {url : String}
    (h : picked scatter calls moment key candidates = some url) :
    Ring.Responsible scatter (addresses candidates) (Ring.position scatter key.client) url := by
  obtain ⟨b, hb, rfl⟩ := Option.map_eq_some_iff.1 h
  have hne : candidates ≠ [] := List.ne_nil_of_mem (mem_of_pick hb)
  rw [pick_hash scatter calls moment key hne] at hb
  obtain ⟨url, hurl, hfind⟩ := Option.bind_eq_some_iff.1 hb
  have hsame := List.find?_some hfind
  obtain rfl : b.url = url := eq_of_beq hsame
  exact (Ring.responsible_of_locate hurl).congr fun u =>
    (perm_answering hcalls hne hplain key.selector).mem_iff

/-- A client gets an address if any of the addresses has a point. -/
theorem exists_picked (hcalls : ∀ call ∈ calls, call.Plain)
    (hplain : ∀ url ∈ addresses candidates, Ring.Plain url) {url : String} {p : UInt32}
    (hurl : url ∈ addresses candidates) (hp : (p, url) ∈ Ring.pointsOf scatter url)
    (moment : Moment) (key : Key) : ∃ u, picked scatter calls moment key candidates = some u := by
  have hne : candidates ≠ [] := by
    rintro rfl
    cases hurl
  have hperm := perm_answering hcalls hne hplain key.selector
  have hpoint := Ring.mem_points_build.2 ⟨hperm.mem_iff.2 hurl, hp⟩
  obtain ⟨u, hu⟩ := Ring.exists_locate (List.ne_nil_of_mem hpoint)
    (Ring.position scatter key.client)
  obtain ⟨b, hb, rfl⟩ := List.mem_map.1
    (hperm.mem_iff.1 (Ring.responsible_of_locate hu).1)
  rw [picked, pick_hash scatter calls moment key hne, hu, Option.bind_some]
  cases hfind : candidates.find? fun c => c.url == b.url with
  | none => exact absurd (beq_self_eq_true b.url) (List.find?_eq_none.1 hfind b hb)
  | some c => exact ⟨c.url, rfl⟩

variable {calls' : List Call} {moment' : Moment} {key' : Key} {candidates' : List Backend}

/-- A client that got an address in one call gets it in the other as well, if it is still there and
no other address has come. -/
theorem picked_of_subset (hclient : key'.client = key.client) (hcalls : ∀ call ∈ calls, call.Plain)
    (hcalls' : ∀ call ∈ calls', call.Plain) (hplain : ∀ url ∈ addresses candidates, Ring.Plain url)
    (hapart : Ring.Apart scatter (addresses candidates ++ addresses candidates')) {u : String}
    (h : picked scatter calls moment key candidates = some u) (hu : u ∈ addresses candidates')
    (hsub : addresses candidates' ⊆ addresses candidates) :
    picked scatter calls' moment' key' candidates' = some u := by
  have hresponsible := responsible_of_picked hcalls hplain h
  obtain ⟨p, hp⟩ := hresponsible.exists_point
  have hplain' : ∀ url ∈ addresses candidates', Ring.Plain url := fun url hurl =>
    hplain url (hsub hurl)
  obtain ⟨v, hv⟩ := exists_picked hcalls' hplain' hu hp moment' key'
  have hresponsible' := responsible_of_picked hcalls' hplain' hv
  rw [hclient] at hresponsible'
  rw [hv, hresponsible.unique hresponsible' hapart hu (hsub hresponsible'.1)]

end Picking

/-- **Clients move only where they have to.** A client is given an address in a call for some
candidates, and then, after any calls in between, another one in a call for others. If both were
there both times they are the same. So where addresses have only gone, a client whose address is
still there keeps it; where addresses have only come, a client whose address was there before has
had it before; and where the addresses are the same nothing changes, in whatever order they come. -/
theorem picked_steady {scatter : Scatter} {before between : List Call} {moment moment' : Moment}
    {key key' : Key} {as bs : List Backend} (hclient : key'.client = key.client)
    (hplain : ∀ call ∈ before ++ .pick .hash moment key as ::
      (between ++ [.pick .hash moment' key' bs]), call.Plain)
    (hapart : Ring.Apart scatter (addresses as ++ addresses bs)) :
    let first := picked scatter before moment key as
    let second := picked scatter (before ++ .pick .hash moment key as :: between) moment' key' bs
    (∀ u v, first = some u → second = some v → u ∈ addresses bs → v ∈ addresses as → u = v) ∧
    (∀ u, first = some u → u ∈ addresses bs → addresses bs ⊆ addresses as → second = some u) ∧
    (∀ v, second = some v → v ∈ addresses as → addresses as ⊆ addresses bs → first = some v) ∧
    ((∀ u, u ∈ addresses as ↔ u ∈ addresses bs) → first = second) := by
  intro first second
  rw [← List.cons_append, ← List.append_assoc] at hplain
  obtain ⟨hcalls', hlast⟩ := List.forall_mem_append.1 hplain
  obtain ⟨hcalls, hrest⟩ := List.forall_mem_append.1 hcalls'
  have has : ∀ url ∈ addresses as, Ring.Plain url := hrest _ List.mem_cons_self
  have hbs : ∀ url ∈ addresses bs, Ring.Plain url := hlast _ (List.mem_singleton_self _)
  -- gone and come are the same step taken forwards and backwards
  have hgone : ∀ u, first = some u → u ∈ addresses bs → addresses bs ⊆ addresses as →
      second = some u := fun u =>
    picked_of_subset hclient hcalls hcalls' has hapart
  have hcome : ∀ v, second = some v → v ∈ addresses as → addresses as ⊆ addresses bs →
      first = some v := fun v =>
    picked_of_subset hclient.symm hcalls' hcalls hbs
      (hapart.mono fun u hu => List.mem_append.2 (List.mem_append.1 hu).symm)
  refine ⟨fun u v hu hv => ?_, hgone, hcome, fun hsame => Option.ext fun u => ?_⟩
  · have hfirst := responsible_of_picked hcalls has hu
    have hsecond := responsible_of_picked hcalls' hbs hv
    rw [hclient] at hsecond
    exact hfirst.unique hsecond hapart
  · constructor
    · intro hu
      have hmem := (responsible_of_picked hcalls has hu).1
      exact hgone u hu ((hsame u).1 hmem) fun v => (hsame v).2
    · intro hu
      have hmem := (responsible_of_picked hcalls' hbs hu).1
      exact hcome u hu ((hsame u).2 hmem) fun v => (hsame v).1

/-- Points by the first letter of an address, all in one place. -/
def byLetter : Scatter := fun text => [UInt32.ofNat (text.toList.headD 'a').toNat]

theorem apart_byLetter : Ring.Apart byLetter ["a", "b", "c", "c", "b"] := by
  have hplace : ∀ u ∈ ["a", "b", "c", "c", "b"], ∀ x ∈ Ring.pointsOf byLetter u,
      x.1 = UInt32.ofNat (u.toList.headD 'a').toNat := by decide +kernel
  have hletter : ∀ u ∈ ["a", "b", "c", "c", "b"], ∀ v ∈ ["a", "b", "c", "c", "b"],
      UInt32.ofNat (u.toList.headD 'a').toNat = UInt32.ofNat (v.toList.headD 'a').toNat →
        u = v := by decide +kernel
  intro u hu v hv p hpu hpv
  exact hletter u hu v hv ((hplace u hu (p, u) hpu).symm.trans (hplace v hv (p, v) hpv))

/-- The first of three backends goes, and the ring is used for others in between; the client of the
second one stays. -/
theorem picked_steady_without_first :
    let key : Key := ⟨"beta", "s", "hash"⟩
    let as := [backendAt "a", backendAt "b", backendAt "c"]
    let bs := [backendAt "c", backendAt "b"]
    let before := [Call.pick .hash ⟨0, 0, 0⟩ ⟨"gamma", "t", "hash"⟩ bs]
    let between := [Call.pick .hash ⟨0, 0, 0⟩ key [backendAt "d"], .forget "t"]
    (∀ call ∈ before ++ .pick .hash ⟨0, 0, 0⟩ key as ::
      (between ++ [.pick .hash ⟨0, 0, 0⟩ key bs]), call.Plain) ∧
    Ring.Apart byLetter (addresses as ++ addresses bs) ∧
    picked byLetter before ⟨0, 0, 0⟩ key as = some "b" ∧
    picked byLetter (before ++ .pick .hash ⟨0, 0, 0⟩ key as :: between) ⟨0, 0, 0⟩ key bs =
      some "b" := by
  intro key as bs before between
  have hplain : ∀ call ∈ before ++ .pick .hash ⟨0, 0, 0⟩ key as ::
      (between ++ [.pick .hash ⟨0, 0, 0⟩ key bs]), call.Plain := by
    unfold Call.Plain Ring.Plain
    decide +kernel
  have hfirst : picked byLetter before ⟨0, 0, 0⟩ key as = some "b" := by decide +kernel
  obtain ⟨-, hgone, -⟩ := picked_steady (rfl : key.client = key.client) hplain apart_byLetter
  exact ⟨hplain, apart_byLetter, hfirst, hgone "b" hfirst (by decide) (by decide)⟩

end Gatehouse.Balance
