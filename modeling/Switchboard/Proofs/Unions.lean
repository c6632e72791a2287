import Switchboard.Proofs.RecordCuts
import Switchboard.Proofs.Stability

/-!
# Narrow criteria, wide criteria, and unions of them

**The header.** Criteria do not matter before the header of a record has been read, nor where it is
none of a handshake. Behind it, criteria that ask for nothing are content, and all others look at
the record, if it is complete (`inspect_cases`). So criteria only ever narrow what is taken for TLS.

**Lists.** A list of names that is put together from two is satisfied where one of the two is, and
so is a list of protocols (`IsUnion`). An empty list is not part of any union, since it asks for
nothing.

**The table.** Behind a wide entry a narrow one has nothing left to take. An entry whose names are
put together from two lists may be split into two entries, one behind the other; the table comes to
the same answers, but for which of the two gets the connection (`outcome_splits`).

Main result: `criteria_narrow_and_unite`.
-/

namespace Switchboard

/-! ## Inspections -/

namespace Tls.Criteria

variable {criteria wide joint first second : Criteria} {data record : Bytes}

/-- **What criteria have to do with an inspection.** Either the header, or the lack of it, shows the
same to all criteria, or it is enough for those that ask for nothing, and all others look at the
record if it is there. -/
theorem inspect_cases (data : Bytes) :
    (∃ shown : Inspection, shown.verdict ≠ .accept ∧
      ∀ criteria : Criteria, criteria.inspect data = shown) ∨
    ∃ record? : Option Bytes, ∀ criteria : Criteria, criteria.inspect data =
      if criteria.isEmpty then .header else record?.elim .shortRecord criteria.inspectRecord := by
  match data with
  | [] | [_] | [_, _] | [_, _, _] | [_, _, _, _] =>
    exact .inl ⟨.shortHeader, by simp [Inspection.verdict], fun _ => rfl⟩
  | contentType :: major :: minor :: high :: low :: rest =>
    simp only [inspect]
    split_ifs with htype hmajor hlength hshort
    · exact .inl ⟨.notHandshake contentType, by simp [Inspection.verdict], fun _ => rfl⟩
    · exact .inl ⟨.oldVersion major minor, by simp [Inspection.verdict], fun _ => rfl⟩
    · exact .inl ⟨.badLength _, by simp [Inspection.verdict], fun _ => rfl⟩
    · exact .inr ⟨none, fun _ => rfl⟩
    · exact .inr ⟨some _, fun _ => rfl⟩

theorem accept_of_accept (hwide : wide.isEmpty = true)
    (h : (criteria.inspect data).verdict = .accept) : (wide.inspect data).verdict = .accept := by
  rcases inspect_cases data with ⟨shown, hshown, hsame⟩ | ⟨record?, hrecord⟩
  · rw [hsame] at h
    exact (hshown h).elim
  · rw [hrecord, if_pos hwide]
    rfl

theorem reject_of_reject (hwide : wide.isEmpty = true)
    (h : (wide.inspect data).verdict = .reject) : (criteria.inspect data).verdict = .reject := by
  rcases inspect_cases data with ⟨shown, -, hsame⟩ | ⟨record?, hrecord⟩
  · rw [hsame] at h ⊢
    exact h
  · rw [hrecord, if_pos hwide] at h
    cases h

/-! ## Unions -/

/-- Criteria that are satisfied where one of two others are. All of them ask for something. -/
structure IsUnion (joint first second : Criteria) : Prop where
  asks : ¬ joint.isEmpty = true ∧ ¬ first.isEmpty = true ∧ ¬ second.isEmpty = true
  accepts : ∀ offer, joint.accepts offer = (first.accepts offer || second.accepts offer)

theorem acceptsHost_append {hosts hosts' : List HostPattern} (h : hosts ≠ []) (h' : hosts' ≠ [])
    (protocols : List Bytes) (offer : Offer) :
    (⟨hosts ++ hosts', protocols⟩ : Criteria).acceptsHost offer =
      ((⟨hosts, protocols⟩ : Criteria).acceptsHost offer ||
        (⟨hosts', protocols⟩ : Criteria).acceptsHost offer) := by
  have hsome := List.isEmpty_eq_false_iff.2 h
  have hsome' := List.isEmpty_eq_false_iff.2 h'
  cases hname : offer.serverName <;> simp [acceptsHost, hname, hsome, hsome', h]

theorem acceptsProtocol_append {protocols protocols' : List Bytes} (h : protocols ≠ [])
    (h' : protocols' ≠ []) (hosts : List HostPattern) (offer : Offer) :
    (⟨hosts, protocols ++ protocols'⟩ : Criteria).acceptsProtocol offer =
      ((⟨hosts, protocols⟩ : Criteria).acceptsProtocol offer ||
        (⟨hosts, protocols'⟩ : Criteria).acceptsProtocol offer) := by
  have hsome := List.isEmpty_eq_false_iff.2 h
  have hsome' := List.isEmpty_eq_false_iff.2 h'
  rw [Bool.eq_iff_iff]
  simp [acceptsProtocol, hsome, hsome', h, and_or_left, exists_or]

theorem isUnion_hosts {hosts hosts' : List String} (h : hosts ≠ []) (h' : hosts' ≠ [])
    (protocols : List String) : IsUnion (ofTexts (hosts ++ hosts') protocols)
      (ofTexts hosts protocols) (ofTexts hosts' protocols) where
  asks := by simp [isEmpty_ofTexts, h, h']
  accepts offer := by
    have hmap : hosts.map HostPattern.ofText ≠ [] := by simpa using h
    have hmap' : hosts'.map HostPattern.ofText ≠ [] := by simpa using h'
    rw [ofTexts, List.map_append, accepts, acceptsHost_append hmap hmap',
      Bool.and_or_distrib_right]
    rfl

theorem isUnion_protocols {protocols protocols' : List String} (h : protocols ≠ [])
    (h' : protocols' ≠ []) (hosts : List String) : IsUnion (ofTexts hosts (protocols ++ protocols'))
      (ofTexts hosts protocols) (ofTexts hosts protocols') where
  asks := by simp [isEmpty_ofTexts, h, h']
  accepts offer := by
    have hmap : protocols.map Utf8.encode ≠ [] := by simpa using h
    have hmap' : protocols'.map Utf8.encode ≠ [] := by simpa using h'
    rw [ofTexts, List.map_append, accepts, acceptsProtocol_append hmap hmap',
      Bool.and_or_distrib_left]
    rfl

theorem IsUnion.satisfied_iff (h : IsUnion joint first second) :
    joint.Satisfied record ↔ first.Satisfied record ∨ second.Satisfied record := by
  unfold Satisfied
  simp only [h.accepts, Bool.or_eq_true, and_or_left, exists_or]

end Tls.Criteria

/-- One verdict waits where both others wait, and accepts where one of them accepts. -/
structure Verdict.Unites (joint first second : Verdict) : Prop where
  wait : (joint = .wait ↔ first = .wait) ∧ (joint = .wait ↔ second = .wait)
  accept : joint = .accept ↔ first = .accept ∨ second = .accept

namespace Tls.Criteria

variable {joint first second : Criteria}

/-- **The verdicts under a union are united.** -/
theorem IsUnion.verdict (h : IsUnion joint first second) (data : Bytes) :
    Verdict.Unites (joint.inspect data).verdict (first.inspect data).verdict
      (second.inspect data).verdict := by
  rcases inspect_cases data with ⟨shown, hshown, hsame⟩ | ⟨record?, hrecord⟩
  · rw [hsame joint, hsame first, hsame second]
    exact ⟨⟨Iff.rfl, Iff.rfl⟩, (or_self_iff).symm⟩
  · obtain ⟨hjoint, hfirst, hsecond⟩ := h.asks
    rw [hrecord joint, hrecord first, hrecord second, if_neg hjoint, if_neg hfirst, if_neg hsecond]
    cases record? with
    | none => exact ⟨⟨Iff.rfl, Iff.rfl⟩, (or_self_iff).symm⟩
    | some record =>
      have hwait : ∀ c c' : Criteria,
          (c.inspectRecord record).verdict = .wait ↔ (c'.inspectRecord record).verdict = .wait :=
        fun c c' => iff_of_false (Inspection.verdict_inspectRecord_ne_wait c record)
          (Inspection.verdict_inspectRecord_ne_wait c' record)
      refine ⟨⟨hwait joint first, hwait joint second⟩, ?_⟩
      simp only [Option.elim_some, verdict_inspectRecord, h.satisfied_iff]

end Tls.Criteria

/-! ## The table -/

namespace Registry

variable {r other : Registry} {before after : List Entry} {joint first second : Entry}

/-- A TLS entry whose list of names is put together from two, and a table with two entries in its
place. None of them is gated, and they do not stand in the last place. -/
structure Splits (r other : Registry) (before after : List Entry) (joint first second : Entry) :
    Prop where
  joined : r.entries = before ++ joint :: after
  split : other.entries = before ++ first :: second :: after
  notLast : after ≠ []
  ungated : joint.minLength = none ∧ first.minLength = none ∧ second.minLength = none
  hosts : ∃ hosts hosts' protocols, hosts ≠ [] ∧ hosts' ≠ [] ∧
    joint.detector = some (.tls (.ofTexts (hosts ++ hosts') protocols)) ∧
    first.detector = some (.tls (.ofTexts hosts protocols)) ∧
    second.detector = some (.tls (.ofTexts hosts' protocols))

/-- What entries of a table are asked, and which is the last, is decided by its end. -/
theorem asked_append {front : List Entry} (hsplit : r.entries = front ++ after)
    (hafter : after ≠ []) :
    r.last = after.getLast hafter ∧
      r.asked = front ++ if (after.getLast hafter).isCatchAll then after.dropLast else after := by
  have hlast : r.last = after.getLast hafter := by
    simp only [Registry.last, hsplit, List.getLast_append_of_ne_nil _ hafter]
  refine ⟨hlast, ?_⟩
  rw [asked, hlast, hsplit, List.dropLast_append_of_ne_nil hafter]
  split_ifs <;> rfl

/-- Where tables end alike, both ask the same entries behind the place where they differ, and have
the same last entry. -/
theorem Splits.exists_rest (h : r.Splits other before after joint first second) :
    ∃ rest ⊆ after, r.asked = before ++ joint :: rest ∧
      other.asked = before ++ first :: second :: rest ∧ r.last ∈ after ∧ other.last = r.last := by
  have hjoined : r.entries = (before ++ [joint]) ++ after := by
    rw [h.joined, List.append_assoc, List.singleton_append]
  have hsplit : other.entries = (before ++ [first, second]) ++ after := by
    rw [h.split, List.append_assoc]
    rfl
  obtain ⟨hlast, hasked⟩ := asked_append hjoined h.notLast
  obtain ⟨hlast', hasked'⟩ := asked_append hsplit h.notLast
  refine ⟨_, ?_, hasked.trans (List.append_assoc _ _ _), hasked'.trans (List.append_assoc _ _ _),
    hlast ▸ List.getLast_mem h.notLast, hlast'.trans hlast.symm⟩
  split_ifs
  · exact List.dropLast_subset after
  · exact List.Subset.refl after

/-- The entry takes what one of the two takes, and waits where both wait. -/
theorem Splits.verdict (h : r.Splits other before after joint first second) (data : Bytes) :
    (joint.Takes data ↔ first.Takes data ∨ second.Takes data) ∧
      (joint.Waits data ↔ first.Waits data) ∧ (joint.Waits data ↔ second.Waits data) := by
  obtain ⟨hosts, hosts', protocols, hne, hne', hjoint, hfirst, hsecond⟩ := h.hosts
  obtain ⟨hgate, hgate₁, hgate₂⟩ := h.ungated
  have hunites := (Tls.Criteria.isUnion_hosts hne hne' protocols).verdict data
  rw [Entry.takes_iff_of_ungated hgate hjoint, Entry.takes_iff_of_ungated hgate₁ hfirst,
    Entry.takes_iff_of_ungated hgate₂ hsecond, Entry.waits_iff_of_ungated hgate hjoint,
    Entry.waits_iff_of_ungated hgate₁ hfirst, Entry.waits_iff_of_ungated hgate₂ hsecond]
  exact ⟨hunites.accept, hunites.wait.1, hunites.wait.2⟩

theorem Splits.someWaits_iff (h : r.Splits other before after joint first second) (data : Bytes) :
    other.SomeWaits data ↔ r.SomeWaits data := by
  obtain ⟨rest, -, hasked, hasked', -, -⟩ := h.exists_rest
  obtain ⟨-, hwaits, hwaits'⟩ := h.verdict data
  obtain ⟨_, _, _, -, -, hjoint, hfirst, hsecond⟩ := h.hosts
  rw [Registry.someWaits_iff, Registry.someWaits_iff, hasked, hasked']
  simp only [List.mem_append, List.mem_cons, or_and_right, exists_or, exists_eq_left, hjoint,
    hfirst, hsecond, ← hwaits, ← hwaits', ne_eq, reduceCtorEq, not_false_eq_true, true_and,
    or_self_left]

/-! ## Behind a wide entry -/

variable {earlier entry wide narrow : Entry} {any criteria : Tls.Criteria} {data : Bytes}

theorem Precedes.probed (h : r.Precedes earlier entry) (hdetector : earlier.detector ≠ none) :
    r.Probed earlier := by
  obtain ⟨before, after, hsplit, hmem⟩ := h
  have hdrop : earlier ∈ r.entries.dropLast := by
    rw [hsplit, List.dropLast_append_of_ne_nil (List.cons_ne_nil _ _)]
    exact List.mem_append_left _ hmem
  exact ⟨List.dropLast_subset _ hdrop, hdetector,
    fun hlast => ne_last_of_mem_dropLast hdrop hlast.1⟩

/-- No probed entry of higher priority takes what the first taker takes. -/
theorem FirstTaker.not_takes_of_precedes (h : r.FirstTaker data entry)
    (hprecedes : r.Precedes earlier entry) (hprobed : r.Probed earlier) : ¬ earlier.Takes data := by
  obtain ⟨before, after, hsplit, hmem⟩ := hprecedes
  obtain ⟨before', after', hsplit', -, -, hnone⟩ := h
  -- Names are unique, so the entry stands in one place only, and what is before it is the same.
  have hnodup : (before ++ entry :: after).Nodup := hsplit ▸ List.Nodup.of_map _ r.nodup
  have hnotMem := (List.nodup_cons.1 (List.nodup_middle.1 hnodup)).1
  rw [List.mem_append, not_or] at hnotMem
  obtain ⟨rfl, -, -⟩ := (List.append_cons_inj_of_notMem hnotMem.1 hnotMem.2).1
    (hsplit.symm.trans hsplit')
  exact hnone earlier hmem hprobed

/-- **Behind an entry that takes all of TLS, no other TLS entry is the first to take a stream.** -/
theorem not_firstTaker_behind (hbehind : r.Precedes wide narrow) (hgate : wide.minLength = none)
    (hwide : wide.detector = some (.tls any)) (hany : any.isEmpty = true)
    (hnarrow : narrow.detector = some (.tls criteria)) : ¬ r.FirstTaker data narrow := by
  intro hfirst
  have haccept := ((Entry.takes_iff hnarrow).1 hfirst.mem.2).2
  have htakes : wide.Takes data :=
    (Entry.takes_iff_of_ungated hgate hwide).2 (Tls.Criteria.accept_of_accept hany haccept)
  exact hfirst.not_takes_of_precedes hbehind (hbehind.probed (by simp [hwide])) htakes

end Registry

namespace Dispatcher

variable {d other : Dispatcher} {before after : List Entry} {joint first second : Entry}

/-- **A table with the entry split comes to the same answers.** Both tables choose the same entry
besides, or the one chooses the entry and the other one of the two, or both leave the question
open. -/
theorem outcome_splits
    (h : d.registry.Splits other.registry before after joint first second) (data : Bytes) :
    (∃ entry ∈ before ++ after, d.outcome data = .decided entry ∧
      other.outcome data = .decided entry) ∨
    (d.outcome data = .decided joint ∧
      (other.outcome data = .decided first ∨ other.outcome data = .decided second)) ∨
    (d.outcome data = .undecided ∧ other.outcome data = .undecided) := by
  obtain ⟨rest, hrest, hasked, hasked', hmem, hlast⟩ := h.exists_rest
  obtain ⟨htakes, -, -⟩ := h.verdict data
  have hdecided : ∀ {entry}, (before ++ joint :: rest).find? (·.Takes data) = some entry →
      d.outcome data = .decided entry := fun hfind =>
    outcome_of_firstTaker (Registry.firstTaker_iff.2 (hasked ▸ hfind))
  have hdecided' : ∀ {entry},
      (before ++ first :: second :: rest).find? (·.Takes data) = some entry →
      other.outcome data = .decided entry := fun hfind =>
    outcome_of_firstTaker (Registry.firstTaker_iff.2 (hasked' ▸ hfind))
  simp only [List.find?_append, List.find?_cons, Option.or_eq_some_iff] at hdecided hdecided'
  -- The tables agree up to the split entry, and behind it they ask the same entries again.
  cases hbefore : before.find? (·.Takes data) with
  | some entry =>
    have hentry := List.mem_append_left after (List.mem_of_find?_eq_some hbefore)
    exact .inl ⟨entry, hentry, hdecided (.inl hbefore), hdecided' (.inl hbefore)⟩
  | none =>
    by_cases hjoint : joint.Takes data
    · refine .inr (.inl ⟨hdecided (.inr ⟨hbefore, by simp [hjoint]⟩), ?_⟩)
      by_cases hfirst : first.Takes data
      · exact .inl (hdecided' (.inr ⟨hbefore, by simp [hfirst]⟩))
      · have hsecond := (htakes.1 hjoint).resolve_left hfirst
        exact .inr (hdecided' (.inr ⟨hbefore, by simp [hfirst, hsecond]⟩))
    · obtain ⟨hfirst, hsecond⟩ := not_or.1 (mt htakes.2 hjoint)
      cases hbehind : rest.find? (·.Takes data) with
      | some entry =>
        have hentry := List.mem_append_right before (hrest (List.mem_of_find?_eq_some hbehind))
        exact .inl ⟨entry, hentry, hdecided (.inr ⟨hbefore, by simp [hjoint, hbehind]⟩),
          hdecided' (.inr ⟨hbefore, by simp [hfirst, hsecond, hbehind]⟩)⟩
      | none =>
        have hnone : d.registry.NoTaker data := by
          rw [Registry.noTaker_iff_find?, hasked]
          simp [List.find?_append, hbefore, hjoint, hbehind]
        have hnone' : other.registry.NoTaker data := by
          rw [Registry.noTaker_iff_find?, hasked']
          simp [List.find?_append, hbefore, hfirst, hsecond, hbehind]
        -- Nobody takes the bytes in either table: both wait or both fall back (`someWaits_iff`).
        by_cases hwaits : d.registry.SomeWaits data
        · exact .inr (.inr ⟨outcome_of_someWaits hnone hwaits,
            outcome_of_someWaits hnone' ((h.someWaits_iff data).2 hwaits)⟩)
        · have hlast' := outcome_of_noneWaits hnone' (mt (h.someWaits_iff data).1 hwaits)
          exact .inl ⟨d.registry.last, List.mem_append_right before hmem,
            outcome_of_noneWaits hnone hwaits, hlast ▸ hlast'⟩

end Dispatcher

/-- **Criteria only narrow, and lists of them are unions.** Criteria accept only what is TLS, and
reject all that is not. With a list put together from two, the verdict is that of the two lists
together. So no TLS entry behind one that takes all of TLS is chosen for what its detector says, and
an entry with two lists may be split into one entry for each. -/
theorem Tls.criteria_narrow_and_unite :
    (∀ (criteria any : Criteria) (data : Bytes), any.isEmpty = true →
      ((criteria.inspect data).verdict = .accept → (any.inspect data).verdict = .accept) ∧
      ((any.inspect data).verdict = .reject → (criteria.inspect data).verdict = .reject)) ∧
    (∀ hosts hosts' protocols : List String, hosts ≠ [] → hosts' ≠ [] → ∀ data : Bytes,
      Verdict.Unites ((Criteria.ofTexts (hosts ++ hosts') protocols).inspect data).verdict
        ((Criteria.ofTexts hosts protocols).inspect data).verdict
        ((Criteria.ofTexts hosts' protocols).inspect data).verdict) ∧
    (∀ hosts protocols protocols' : List String, protocols ≠ [] → protocols' ≠ [] → ∀ data : Bytes,
      Verdict.Unites ((Criteria.ofTexts hosts (protocols ++ protocols')).inspect data).verdict
        ((Criteria.ofTexts hosts protocols).inspect data).verdict
        ((Criteria.ofTexts hosts protocols').inspect data).verdict) ∧
    (∀ (d : Dispatcher) (wide narrow : Entry) (any criteria : Criteria) (data : Bytes),
      d.registry.Precedes wide narrow → wide.minLength = none →
      wide.detector = some (.tls any) → any.isEmpty = true →
      narrow.detector = some (.tls criteria) →
      ¬ d.registry.FirstTaker data narrow ∧
        (d.outcome data = .decided narrow →
          d.registry.NoTaker data ∧ narrow = d.registry.last)) ∧
    ∀ (d other : Dispatcher) (before after : List Entry) (joint first second : Entry),
      d.registry.Splits other.registry before after joint first second → ∀ data : Bytes,
      (∃ entry ∈ before ++ after, d.outcome data = .decided entry ∧
        other.outcome data = .decided entry) ∨
      (d.outcome data = .decided joint ∧
        (other.outcome data = .decided first ∨ other.outcome data = .decided second)) ∨
      (d.outcome data = .undecided ∧ other.outcome data = .undecided) := by
  refine ⟨fun criteria any data hany => ?_, fun hosts hosts' protocols h h' data => ?_,
    fun hosts protocols protocols' h h' data => ?_, fun d wide narrow any criteria data hbehind
      hgate hwide hany hnarrow => ?_, fun d other before after joint first second h data => ?_⟩
  · exact ⟨Criteria.accept_of_accept hany, Criteria.reject_of_reject hany⟩
  · exact (Criteria.isUnion_hosts h h' protocols).verdict data
  · exact (Criteria.isUnion_protocols h h' hosts).verdict data
  · have hfirst : ¬ d.registry.FirstTaker data narrow :=
      Registry.not_firstTaker_behind hbehind hgate hwide hany hnarrow
    -- It can still be reached, but only as the last entry, when nobody takes the bytes.
    refine ⟨hfirst, fun hout => ?_⟩
    obtain ⟨hnone, -, hlast⟩ := (Dispatcher.outcome_eq_decided.1 hout).resolve_left hfirst
    exact ⟨hnone, hlast⟩
  · exact Dispatcher.outcome_splits h data

/-! ## Two names -/

/-- An ungated entry for TLS clients that ask for one of some names and offer one of some
protocols. -/
def Entry.forTls (name : String) (hosts protocols : List String) : Entry :=
  .plain name (some (.tls (.ofTexts hosts protocols)))

/-- An entry for two names, one for all of TLS, one that comes too late, and the catch-all. -/
def Registry.twoNames : Registry where
  entries := [.forTls "web" (["www.example.org"] ++ ["mail.example.org"]) [],
    .forTls "tls" [] [], .forTls "late" [] ["h2"], .plain Route.catchAllName none]
  ne_nil := by simp
  nodup := by decide

/-- The same with an entry for each of the two names. -/
def Registry.oneNameEach : Registry where
  entries := [.forTls "www" ["www.example.org"] [], .forTls "mail" ["mail.example.org"] [],
    .forTls "tls" [] [], .forTls "late" [] ["h2"], .plain Route.catchAllName none]
  ne_nil := by simp
  nodup := by decide

/-- A client of one of the two names goes to an entry for two names, or to an entry for one. The
late entry is not the first to take it, though the client offers what it asks for. -/
theorem Tls.criteria_narrow_and_unite_twoNames :
    let d : Dispatcher := ⟨.twoNames, "web", 0⟩
    let other : Dispatcher := ⟨.oneNameEach, "www", 0⟩
    let record := Tls.mailHello.record 3 1
    d.outcome record =
        .decided (.forTls "web" (["www.example.org"] ++ ["mail.example.org"]) []) ∧
      (other.outcome record = .decided (.forTls "www" ["www.example.org"] []) ∨
        other.outcome record = .decided (.forTls "mail" ["mail.example.org"] [])) ∧
      (Entry.forTls "late" [] ["h2"]).Takes record ∧
      ¬ d.registry.FirstTaker record (.forTls "late" [] ["h2"]) := by
  intro d other record
  obtain ⟨-, -, -, hbehind, hsplit⟩ := Tls.criteria_narrow_and_unite
  have hsplits : d.registry.Splits other.registry [] _ _ _ _ :=
    ⟨rfl, rfl, List.cons_ne_nil _ _, ⟨rfl, rfl, rfl⟩,
      ⟨_, _, _, List.cons_ne_nil _ _, List.cons_ne_nil _ _, rfl, rfl, rfl⟩⟩
  let web : Entry := .forTls "web" (["www.example.org"] ++ ["mail.example.org"]) []
  have hprobed : d.registry.Probed web :=
    ⟨List.mem_cons_self, nofun, fun hlast => absurd hlast.2 (by decide)⟩
  have htakes : web.Takes record := by decide +kernel
  have hjoint : d.outcome record = .decided web :=
    Dispatcher.outcome_of_firstTaker ⟨[], _, rfl, hprobed, htakes, nofun⟩
  have hprecedes : d.registry.Precedes (.forTls "tls" [] []) (.forTls "late" [] ["h2"]) :=
    ⟨[_, _], _, rfl, List.mem_cons_of_mem _ List.mem_cons_self⟩
  refine ⟨hjoint, ?_, by decide +kernel, (hbehind d _ _ _ _ record hprecedes rfl rfl rfl rfl).1⟩
  rcases hsplit d other _ _ _ _ _ hsplits record with
    ⟨entry, hmem, hentry, -⟩ | ⟨-, htwo⟩ | ⟨hopen, -⟩
  · rw [hjoint] at hentry
    cases hentry
    have hname : web.name ∈ ["tls", "late", Route.catchAllName] := List.mem_map_of_mem hmem
    exact absurd hname (by decide)
  · exact htwo
  · rw [hjoint] at hopen
    cases hopen

end Switchboard
