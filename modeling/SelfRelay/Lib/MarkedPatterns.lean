import SelfRelay.Lib.MarkedText
import SelfRelay.Lib.RegexLeads

/-!
# Rules as patterns

A pattern that reads the stems of a rule, then spaces, then a value, implements the rule
(`Reader.implements`).
-/

namespace MarkedText

open Regex

variable {ι α : Type} {S : Setting α}

/-- A stem, perhaps after an opening quote, ends at the first delimiter. -/
theorem Rule.stem_unique {R : Rule S} {o o' : Option α} {n n' rest rest' : List α}
    (h : o.toList ++ (n ++ rest) = o'.toList ++ (n' ++ rest')) (ho : ∀ d ∈ o, R.quote d = true)
    (ho' : ∀ d ∈ o', R.quote d = true) (hn : R.stem n) (hn' : R.stem n') :
    o.toList ++ n = o'.toList ++ n' ∧ rest = rest' := by
  obtain ⟨m, d, rfl, hd, hm⟩ := R.stem_delimiter n hn
  obtain ⟨m', d', rfl, hd', hm'⟩ := R.stem_delimiter n' hn'
  have hnone : ∀ {o : Option α} {m : List α}, (∀ d ∈ o, R.quote d = true) →
      (∀ c ∈ m, R.delimiter c = false) → ∀ c ∈ o.toList ++ m, R.delimiter c = false := by
    intro o m ho hm c hc
    obtain hc | hc := List.mem_append.1 hc
    · exact (R.ends_quote c (R.quote_quote c (ho c (Option.mem_toList.1 hc)))).1
    · exact hm c hc
  have hsplit : (o.toList ++ m) ++ d :: rest = (o'.toList ++ m') ++ d' :: rest' := by
    simpa using h
  obtain ⟨e, he, hrest⟩ | ⟨e, he, hrest⟩ := List.append_eq_append_iff.1 hsplit
  · cases e with
    | nil =>
      obtain ⟨rfl, rfl⟩ := List.cons.inj hrest
      exact ⟨by rw [← List.append_assoc, ← List.append_assoc, he, List.append_nil], rfl⟩
    | cons x e =>
      obtain ⟨rfl, -⟩ := List.cons.inj hrest
      exact Bool.noConfusion (hd.symm.trans (hnone ho' hm' d (by rw [he]; simp)))
  · cases e with
    | nil =>
      obtain ⟨rfl, rfl⟩ := List.cons.inj hrest
      exact ⟨by rw [← List.append_assoc, ← List.append_assoc, he, List.append_nil], rfl⟩
    | cons x e =>
      obtain ⟨rfl, -⟩ := List.cons.inj hrest
      exact Bool.noConfusion (hd'.symm.trans (hnone ho hm d' (by rw [he]; simp)))

variable [DecidableEq ι] [DecidableEq α]

/-- The first pattern reads the stems of the rule, perhaps after an opening quote, and the second
one its values.  A match is replaced by the lead and what the rule puts in
the place of the value. -/
structure Reader (R : Rule S) (stem value : Regex ι α) (lead : ι)
    (replace : (ι → Option (List α)) → List α) : Prop where
  groupless : stem.groupless = true
  reads : ∀ s m, m ∈ stem.run s → ∃ (o : Option α) (c : α) (n : List α),
    s.rest = o.toList ++ (c :: n ++ m.rest) ∧ (∀ d ∈ o, R.quote d = true) ∧ R.stem (c :: n) ∧
      R.test s.last c ∧ m.last = (c :: n).getLast?
  finds : ∀ (s : Cursor ι α) (o : Option α) (c : α) (n rest : List α),
    s.rest = o.toList ++ (c :: n ++ rest) → (∀ d ∈ o, R.quote d = true) → R.stem (c :: n) →
      R.test s.last c → stem.run s ≠ []
  inside : ∀ (last : Option α) (a : List α) (c : α) (b rest : List α)
    (groups : ι → Option (List α)),
    S.mark = a ++ c :: b → stem.run ⟨a.getLast?.or last, c :: (b ++ S.closing :: rest), groups⟩ = []
  opening_stem : ∀ n, R.stem n → S.opening ∉ n
  opening_space : S.space S.opening = false
  opening_quote : S.quote S.opening = false
  value_nil : ∀ t, (∀ c ∈ t.rest.head?, R.value c = false) → value.run t = []
  value_cut : ∀ (q v z : Marked α) (last : Option α) (l : List α), R.Cut q v z →
    ∃ t, (value.run
      ⟨last, S.render q, Function.update (fun _ => none) lead (some l)⟩).head? = some t ∧
      t.rest = S.render z ∧ replace t.groups = l ++ S.render v ∧
        (t.last = (S.render v).getLast? ∨ ¬ R.Takes z)

namespace Reader

variable {R : Rule S} {stem value : Regex ι α} {lead : ι} {replace : (ι → Option (List α)) → List α}

/-- The whole pattern. -/
def pattern (S : Setting α) (stem value : Regex ι α) (lead : ι) : Regex ι α :=
  seq (group lead (seq stem (many S.space))) value

/-- A match begins with a lead before a value. -/
theorem finds_of_mem (h : Reader R stem value lead replace) {last : Option α} {q : Marked α}
    {groups : ι → Option (List α)} {t : Cursor ι α}
    (ht : t ∈ (pattern S stem value lead).run ⟨last, S.render q, groups⟩) :
    ∃ o c l q', R.Finds last q o c l q' := by
  obtain ⟨m', hm', ht⟩ := List.mem_flatMap.1 ht
  obtain ⟨m, hm, rfl⟩ := List.mem_map.1 hm'
  obtain ⟨s, hs, hm⟩ := List.mem_flatMap.1 hm
  obtain ⟨o, c, n, hrest, ho, hn, htest, -⟩ := h.reads _ s hs
  obtain ⟨w, hw, hafter⟩ := run_reads hm
  have hspace : ∀ d ∈ w, S.space d = true := hw
  have hopening : S.opening ∉ o.toList ++ (c :: n ++ w) := by
    intro hmem
    obtain hmem | hmem := List.mem_append.1 hmem
    · have hquote := R.quote_quote _ (ho _ (Option.mem_toList.1 hmem))
      exact Bool.noConfusion (h.opening_quote.symm.trans hquote)
    · obtain hmem | hmem := List.mem_append.1 hmem
      · exact h.opening_stem _ hn hmem
      · exact Bool.noConfusion (h.opening_space.symm.trans (hspace _ hmem))
  have hsplit : S.render q = (o.toList ++ (c :: n ++ w)) ++ m.rest := by
    rw [hafter.rest] at hrest
    simpa using hrest
  obtain ⟨q', rfl, hq'⟩ := S.split_render hopening hsplit
  refine ⟨o, c, n ++ w, q', ⟨by simp, ho, ⟨c :: n, w, rfl, hn, hspace⟩, htest, ?_⟩⟩
  by_contra hnot
  have hnil := h.value_nil { m with
    groups := Function.update m.groups lead
      (some ((S.render ((o.toList ++ (c :: n ++ w)).map some ++ q')).take
        ((S.render ((o.toList ++ (c :: n ++ w)).map some ++ q')).length - m.rest.length))) } (by
    intro d hd
    have hd : d ∈ m.rest.head? := hd
    rw [← hq', Setting.head?_render] at hd
    obtain ⟨x, hx, rfl⟩ := Option.mem_map.1 hd
    exact Bool.eq_false_iff.2 fun hvalue => hnot ⟨x, hx, hvalue⟩)
  rw [hnil] at ht
  cases ht

theorem run_stem_unique (h : Reader R stem value lead replace) {last : Option α}
    {o : Option α} {c : α}
    {n rest : List α} {groups : ι → Option (List α)} (ho : ∀ d ∈ o, R.quote d = true)
    (hn : R.stem (c :: n)) {m : Cursor ι α}
    (hm : m ∈ stem.run ⟨last, o.toList ++ c :: n ++ rest, groups⟩) :
    m = ⟨(o.toList ++ c :: n).getLast?.or last, rest, groups⟩ := by
  obtain ⟨o', c', n', hrest, ho', hn', -, hlast⟩ := h.reads _ m hm
  have hgroups := groups_of_run h.groupless hm
  have hsplit : o.toList ++ ((c :: n) ++ rest) = o'.toList ++ ((c' :: n') ++ m.rest) := by
    simpa using hrest
  obtain ⟨hlead, hrest⟩ := Rule.stem_unique hsplit ho ho' hn hn'
  obtain ⟨mlast, mrest, mgroups⟩ := m
  obtain rfl : rest = mrest := hrest
  obtain rfl : mgroups = groups := hgroups
  have hlast' : mlast = (c' :: n').getLast? := hlast
  rw [hlast', hlead, List.getLast?_append_of_ne_nil _ (List.cons_ne_nil c' n'), List.getLast?_cons]
  rfl

/-- At a lead before a value the pattern matches the lead and the value. -/
theorem head?_run (h : Reader R stem value lead replace) {last : Option α} {q q' v z : Marked α}
    {o : Option α} {c : α} {l : List α} (hfinds : R.Finds last q o c l q') (hlongest : R.Longest q')
    (hcut : R.Cut q' v z) :
    ∃ t, ((pattern S stem value lead).run ⟨last, S.render q, fun _ => none⟩).head? = some t ∧
      t.rest = S.render z ∧ replace t.groups = o.toList ++ c :: l ++ S.render v ∧
        (t.last = (S.render v).getLast? ∨ ¬ R.Takes z) := by
  obtain ⟨hsplit, ho, ⟨n, w, hl, hn, hw⟩, htest, -⟩ := hfinds
  obtain ⟨d, n, rfl, -⟩ := R.stem_first n hn
  obtain ⟨rfl, rfl⟩ := List.cons.inj hl
  have hrender : S.render q = (o.toList ++ c :: n) ++ (w ++ S.render q') := by
    rw [hsplit, Setting.render_append, Setting.render_map_some]
    simp
  obtain ⟨t, ht, htrest, htgroups, htlast⟩ := h.value_cut q' v z
    (w.getLast?.or ((o.toList ++ c :: n).getLast?.or last))
    ((o.toList ++ c :: n) ++ w) hcut
  refine ⟨t, ?_, htrest, ?_, htlast⟩
  · rw [hrender, pattern, head?_run_lead]
    · exact ht
    · exact h.finds _ o c n (w ++ S.render q') (by simp) ho hn htest
    · exact fun m hm => h.run_stem_unique ho hn hm
    · exact hw
    · intro s w' hne hrest hw'
      have hopening : S.opening ∉ w' := fun hmem =>
        Bool.noConfusion (h.opening_space.symm.trans (hw' _ hmem))
      obtain ⟨q'', rfl, hq''⟩ := S.split_render hopening hrest
      refine h.value_nil s fun d hd => ?_
      rw [← hq'', Setting.head?_render] at hd
      obtain ⟨x, hx, rfl⟩ := Option.mem_map.1 hd
      exact Bool.eq_false_iff.2 fun hvalue => hlongest w' q'' rfl hne hw' ⟨x, hx, hvalue⟩
    · intro hnil
      rw [hnil] at ht
      cases ht
  · rw [htgroups]
    simp

/-- Where no value goes on, what comes before does not matter. -/
theorem sub_of_not_takes (h : Reader R stem value lead replace) {z : Marked α} (hz : ¬ R.Takes z)
    (last last' : Option α) : (pattern S stem value lead).sub replace 0 last (S.render z) =
      (pattern S stem value lead).sub replace 0 last' (S.render z) := by
  have hnil : ∀ last, (pattern S stem value lead).run ⟨last, S.render z, fun _ => none⟩ = [] := by
    intro last
    rw [List.eq_nil_iff_forall_not_mem]
    intro t ht
    obtain ⟨o, c, l, q', hfinds⟩ := h.finds_of_mem ht
    refine hz ?_
    rw [hfinds.split]
    cases o with
    | none => exact Rule.takes_cons.2 (R.value_of_first c hfinds.lead.first)
    | some d => exact Rule.takes_cons.2 (R.value_of_quote d (hfinds.quote d rfl))
  cases hrender : S.render z with
  | nil => rfl
  | cons c rest =>
    rw [hrender] at hnil
    rw [sub_of_run_eq_nil (hnil last), sub_of_run_eq_nil (hnil last')]

/-- The substitution for the pattern replaces values by the rule. -/
theorem implements (h : Reader R stem value lead replace) :
    R.Implements fun last text => (pattern S stem value lead).sub replace 0 last text where
  nil _ := rfl
  keep last d q hnone := by
    refine sub_of_run_eq_nil (List.eq_nil_iff_forall_not_mem.2 fun t ht => ?_)
    obtain ⟨o, c, l, q', hfinds⟩ := h.finds_of_mem (q := some d :: q) ht
    exact hnone o c l q' hfinds
  mark last q := by
    have hmark : ∀ rest : List α, (pattern S stem value lead).sub replace 0 last
        (S.mark ++ S.closing :: rest) = S.mark ++
          (pattern S stem value lead).sub replace 0 (S.mark.getLast?.or last)
              (S.closing :: rest) := by
      intro rest
      refine sub_append_of_run_eq_nil fun a c b hsplit => ?_
      rw [pattern, run_seq, run_group, run_seq, h.inside last a c b rest _ hsplit]
      rfl
    rw [hmark]
    rfl
  take last q o c l q' v z hfinds hlongest hcut := by
    obtain ⟨t, ht, hrest, hgroups, hlast⟩ := h.head?_run hfinds hlongest hcut
    obtain ⟨u, -, hafter⟩ := run_reads (List.mem_of_mem_head? ht)
    have hne : u ≠ [] := by
      rintro rfl
      have hall : S.render q = S.render z := hafter.rest.trans hrest
      obtain ⟨u, hu⟩ : ∃ u, q' = u ++ z := by
        cases hcut with
        | @quoted d u z => exact ⟨some d :: (u ++ [some d]), by simp⟩
        | @bare u z => exact ⟨u, rfl⟩
      have hlength := congrArg List.length hall
      rw [hfinds.split, hu, Setting.render_append, Setting.render_append,
        Setting.render_map_some] at hlength
      simp at hlength
      omega
    rw [sub_of_run ht hafter hne, hgroups, hrest, List.append_assoc]
    obtain hlast | hz := hlast
    · rw [hlast]
    · rw [h.sub_of_not_takes hz t.last (S.render v).getLast?]

end Reader

end MarkedText
