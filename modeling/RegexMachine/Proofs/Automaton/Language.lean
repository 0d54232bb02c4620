import Mathlib.Computability.Language
import RegexMachine.Proofs.Automaton.Shape
import RegexMachine.Proofs.Automaton.Walk

namespace RegexMachine.Automaton

variable {a b : Automaton} {w : List Char}

/-- The texts that the automaton spells. -/
def language (a : Automaton) : Language Char := {w | a.Spells w}

theorem mem_language : w ∈ a.language ↔ Path a.edges a.start w a.accept := Iff.rfl

theorem language_literal (c : Char) : (literal c).language = {[c]} := by
  ext w
  apply Iff.intro
  · intro h
    obtain ⟨e, he, v, -, rfl, hv⟩ := Path.exists_step (mem_language.1 h) Nat.zero_ne_one
    obtain rfl : e = ⟨0, .char c, 1⟩ := by simpa [literal] using he
    obtain ⟨rfl, -⟩ := hv.eq_of_no_exit (by simp [literal])
    rfl
  · intro h
    obtain rfl : w = [c] := h
    exact .read (by simp [literal]) (.refl 1)

theorem language_bare (states : Nat) : (bare states).language = 1 := by
  ext w
  apply Iff.intro
  · intro h
    exact (Path.eq_of_no_exit (mem_language.1 h) (by simp [bare])).1
  · intro h
    obtain rfl : w = [] := h
    exact .refl 0

section Concat

/-- Behind the shared state only the second operand has edges. -/
theorem walk_behind {p q : Nat} (ha : a.Proper) (hb : b.Proper)
    (h : Path (a.concat b).edges p w q) (hp : a.states ≤ p) :
    Path (b.edges.map (·.relabel (a.splice b))) p w q := by
  induction h using Path.walk with
  | refl => exact .refl _
  | step e w he h ih =>
    rcases mem_concat.1 he with he | ⟨f, hf, rfl⟩
    · have hs := ha.source_lt e he
      omega
    · have ht : a.states ≤ a.splice b f.target := le_splice (hb.no_entry f hf)
      exact .step (List.mem_map.2 ⟨f, hf, rfl⟩) (ih ht)

/-- From the first operand, the accepting state is reached through the shared state. -/
theorem walk_through {p q : Nat} (ha : a.Proper) (hb : b.Proper)
    (h : Path (a.concat b).edges p w q) (hp : p < a.states) (hq : q = a.splice b b.accept) :
    ∃ u v, u ++ v = w ∧ Path a.edges p u a.accept ∧
      Path (b.edges.map (·.relabel (a.splice b))) a.accept v q := by
  induction h using Path.walk with
  | refl =>
    have hs : b.accept = b.start := by
      by_contra hne
      have h : a.states ≤ a.splice b b.accept := le_splice hne
      omega
    rw [hs, splice_start] at hq
    exact ⟨[], [], rfl, hq ▸ .refl _, hq ▸ .refl _⟩
  | step e w he h ih =>
    rcases mem_concat.1 he with hea | ⟨f, hf, rfl⟩
    · obtain ⟨u, v, rfl, hu, hv⟩ := ih (ha.target_lt e hea)
      exact ⟨e.label.word ++ u, v, by simp, .step hea hu, hv⟩
    · have hs : f.source = b.start := by
        by_contra hne
        have h : a.states ≤ a.splice b f.source := le_splice hne
        change a.splice b f.source < a.states at hp
        omega
      have hg : a.splice b f.source = a.accept := by rw [hs, splice_start]
      refine ⟨[], f.label.word ++ w, rfl, ?_, ?_⟩
      · change Path a.edges (a.splice b f.source) [] a.accept
        rw [hg]
        exact .refl _
      · rw [← hg]
        have ht : a.states ≤ a.splice b f.target := le_splice (hb.no_entry f hf)
        exact .step (e := f.relabel (a.splice b)) (List.mem_map.2 ⟨f, hf, rfl⟩)
          (walk_behind ha hb h ht)

theorem language_concat (ha : a.Proper) (hb : b.Proper) :
    (a.concat b).language = a.language * b.language := by
  ext w
  rw [Language.mem_mul]
  apply Iff.intro
  · intro h
    obtain ⟨u, v, huv, hu, hv⟩ := walk_through ha hb (mem_language.1 h) ha.start_lt rfl
    obtain ⟨q, hq, hv⟩ := hv.of_relabel (splice_inj ha.accept_lt) (splice_start a b).symm
    obtain rfl := splice_inj ha.accept_lt hq
    exact ⟨u, hu, v, hv, huv⟩
  · intro h
    obtain ⟨u, hu, v, hv, huv⟩ := h
    subst huv
    have first : Path (a.concat b).edges a.start u a.accept :=
      Path.mono (fun e he => mem_concat.2 (.inl he)) hu
    have second : Path (a.concat b).edges (a.splice b b.start) v (a.splice b b.accept) :=
      Path.embed (fun e he => mem_concat.2 (.inr ⟨e, he, rfl⟩)) hv
    rw [splice_start] at second
    exact first.append second

end Concat

/-- A copy of `a` under higher numbers is left only at its accepting state, by a free move to `stop`
or, if `again` holds, back to its start. Then a walk to `stop` makes one or more rounds of `a`. -/
theorem rounds {edges : List Edge} {offset stop : Nat} {again : Prop} (ha : a.Proper)
    (leave : ∀ e ∈ edges, ∀ p < a.states, e.source = p + offset →
      (∃ f ∈ a.edges, f.relabel (· + offset) = e) ∨
      p = a.accept ∧ e.label = .epsilon ∧ (e.target = stop ∨ again ∧ e.target = a.start + offset))
    (no_exit : ∀ e ∈ edges, e.source ≠ stop) (hstop : a.states + offset ≤ stop) {q : Nat}
    (h : Path edges q w stop) :
    ∀ p < a.states, q = p + offset → ∃ u rest, u ++ rest.flatten = w ∧
      Path a.edges p u a.accept ∧ (∀ v ∈ rest, v ∈ a.language) ∧ (rest ≠ [] → again) := by
  induction h using Path.walk with
  | refl =>
    intro p hp hq
    omega
  | step e w he h ih =>
    intro p hp hq
    rcases leave e he p hp hq with ⟨f, hf, rfl⟩ | ⟨rfl, hl, ht | ⟨hagain, ht⟩⟩
    · obtain rfl : f.source = p := Nat.add_right_cancel hq
      obtain ⟨u, rest, rfl, hu, hrest⟩ := ih f.target (ha.target_lt f hf) rfl
      exact ⟨f.label.word ++ u, rest, by simp [Edge.relabel], .step hf hu, hrest⟩
    · rw [ht] at h
      obtain ⟨rfl, -⟩ := h.eq_of_no_exit no_exit
      exact ⟨[], [], by simp [hl, Label.word], .refl _, by simp, by simp⟩
    · obtain ⟨u, rest, rfl, hu, hrest, -⟩ := ih a.start ha.start_lt ht
      refine ⟨[], u :: rest, by simp [hl, Label.word], .refl _, ?_, fun _ => hagain⟩
      exact List.forall_mem_cons.2 ⟨hu, hrest⟩

/-- If the copy can be left for `stop` and for nothing else, a walk to `stop` spells what `a` does. -/
theorem walk_once {edges : List Edge} {offset stop : Nat} (ha : a.Proper)
    (copy : ∀ f ∈ a.edges, f.relabel (· + offset) ∈ edges)
    (last : ⟨a.accept + offset, .epsilon, stop⟩ ∈ edges)
    (leave : ∀ e ∈ edges, ∀ p < a.states, e.source = p + offset →
      (∃ f ∈ a.edges, f.relabel (· + offset) = e) ∨
      p = a.accept ∧ e.label = .epsilon ∧ e.target = stop)
    (no_exit : ∀ e ∈ edges, e.source ≠ stop) (hstop : a.states + offset ≤ stop) :
    Path edges (a.start + offset) w stop ↔ w ∈ a.language := by
  apply Iff.intro
  · intro h
    have leave' : ∀ e ∈ edges, ∀ p < a.states, e.source = p + offset →
        (∃ f ∈ a.edges, f.relabel (· + offset) = e) ∨ p = a.accept ∧ e.label = .epsilon ∧
          (e.target = stop ∨ False ∧ e.target = a.start + offset) := by
      intro e he p hp hs
      rcases leave e he p hp hs with hf | ⟨hp, hl, ht⟩
      · exact .inl hf
      · exact .inr ⟨hp, hl, .inl ht⟩
    obtain ⟨u, rest, huw, hu, -, hnone⟩ :=
      rounds ha leave' no_exit hstop h a.start ha.start_lt rfl
    have hrest : rest = [] := by simpa using hnone
    rw [hrest, List.flatten_nil, List.append_nil] at huw
    exact huw ▸ hu
  · intro h
    have inside : Path edges (a.start + offset) w (a.accept + offset) :=
      Path.embed (f := (· + offset)) copy h
    have whole := inside.append (.free last (.refl stop))
    rwa [List.append_nil] at whole

theorem walk_left (ha : a.Proper) (hb : b.Proper) :
    Path (a.union b).edges (a.start + 1) w (a.states + b.states + 1) ↔ w ∈ a.language := by
  apply walk_once ha
  · intro f hf
    exact mem_union.2 (.inr (.inr (.inl ⟨f, hf, rfl⟩)))
  · exact mem_union.2 (.inr (.inr (.inr (.inr (.inl rfl)))))
  · intro e he p hp hs
    rcases mem_union.1 he with rfl | rfl | he | ⟨f, hf, rfl⟩ | rfl | rfl
    · simp at hs
    · simp at hs
    · exact .inl he
    · simp only [Edge.relabel] at hs
      omega
    · exact .inr ⟨(Nat.add_right_cancel hs).symm, rfl, rfl⟩
    · dsimp only at hs
      omega
  · exact (proper_union ha hb).no_exit
  · omega

theorem walk_right (ha : a.Proper) (hb : b.Proper) :
    Path (a.union b).edges (b.start + (a.states + 1)) w (a.states + b.states + 1) ↔
      w ∈ b.language := by
  have haccept := ha.accept_lt
  apply walk_once hb
  · intro f hf
    exact mem_union.2 (.inr (.inr (.inr (.inl ⟨f, hf, rfl⟩))))
  · exact mem_union.2 (.inr (.inr (.inr (.inr (.inr rfl)))))
  · intro e he p hp hs
    rcases mem_union.1 he with rfl | rfl | ⟨f, hf, rfl⟩ | he | rfl | rfl
    · dsimp only at hs
      omega
    · dsimp only at hs
      omega
    · have h := ha.source_lt f hf
      simp only [Edge.relabel] at hs
      omega
    · exact .inl he
    · dsimp only at hs
      omega
    · exact .inr ⟨(Nat.add_right_cancel hs).symm, rfl, rfl⟩
  · exact (proper_union ha hb).no_exit
  · omega

theorem language_union (ha : a.Proper) (hb : b.Proper) :
    (a.union b).language = a.language + b.language := by
  ext w
  rw [Language.mem_add, ← walk_left ha hb, ← walk_right ha hb]
  apply Iff.intro
  · intro h
    obtain ⟨e, he, v, hs, rfl, hv⟩ := Path.exists_step (mem_language.1 h) (Nat.succ_ne_zero _).symm
    change e.source = 0 at hs
    rcases mem_union.1 he with rfl | rfl | ⟨f, hf, rfl⟩ | ⟨f, hf, rfl⟩ | rfl | rfl
    · exact .inl hv
    · exact .inr hv
    · exact absurd hs (Nat.succ_ne_zero _)
    · exact absurd hs (Nat.succ_ne_zero _)
    · exact absurd hs (Nat.succ_ne_zero _)
    · exact absurd hs (Nat.succ_ne_zero _)
  · intro h
    rcases h with h | h
    · exact .free (mem_union.2 (.inl rfl)) h
    · exact .free (mem_union.2 (.inr (.inl rfl))) h

section Loop

variable {bypass : List Edge}

/-- From the start of `a` on, a loop spells one or more texts of `a`, whatever bypasses it. -/
theorem walk_rounds (ha : a.Proper) (hl : (a.loop bypass).Proper)
    (hb : ∀ e ∈ bypass, e.source = 0) :
    Path (a.loop bypass).edges (a.start + 1) w (a.states + 1) ↔
      w ∈ a.language * KStar.kstar a.language := by
  rw [Language.mem_mul]
  apply Iff.intro
  · intro h
    have leave : ∀ e ∈ (a.loop bypass).edges, ∀ p < a.states, e.source = p + 1 →
        (∃ f ∈ a.edges, f.relabel (· + 1) = e) ∨ p = a.accept ∧ e.label = .epsilon ∧
          (e.target = a.states + 1 ∨ True ∧ e.target = a.start + 1) := by
      intro e he p hp hs
      rcases mem_loop.1 he with he | rfl | he | rfl | rfl
      · rw [hb e he] at hs
        omega
      · simp at hs
      · exact .inl he
      · exact .inr ⟨(Nat.add_right_cancel hs).symm, rfl, .inr ⟨trivial, rfl⟩⟩
      · exact .inr ⟨(Nat.add_right_cancel hs).symm, rfl, .inl rfl⟩
    obtain ⟨u, rest, rfl, hu, hrest, -⟩ :=
      rounds ha leave hl.no_exit le_rfl h a.start ha.start_lt rfl
    exact ⟨u, hu, rest.flatten, Language.join_mem_kstar hrest, rfl⟩
  · intro h
    obtain ⟨u, hu, v, hv, huv⟩ := h
    subst huv
    obtain ⟨rest, hflatten, hrest⟩ := Language.mem_kstar.1 hv
    subst hflatten
    have round : ∀ u ∈ a.language, Path (a.loop bypass).edges (a.start + 1) u (a.accept + 1) :=
      fun u hu => Path.embed (f := (· + 1))
        (fun f hf => mem_loop.2 (.inr (.inr (.inl ⟨f, hf, rfl⟩)))) hu
    have last : Path (a.loop bypass).edges (a.accept + 1) [] (a.states + 1) :=
      .free (mem_loop.2 (.inr (.inr (.inr (.inr rfl))))) (.refl _)
    clear hv
    induction rest generalizing u with
    | nil => exact (round u hu).append last
    | cons v rest ih =>
      obtain ⟨hv, hrest⟩ := List.forall_mem_cons.1 hrest
      exact (round u hu).append
        (.free (mem_loop.2 (.inr (.inr (.inr (.inl rfl))))) (ih v hv hrest))

theorem language_plus (ha : a.Proper) :
    a.plus.language = a.language * KStar.kstar a.language := by
  ext w
  rw [← walk_rounds ha (proper_plus ha) (by simp)]
  apply Iff.intro
  · intro h
    obtain ⟨e, he, v, hs, rfl, hv⟩ := Path.exists_step (mem_language.1 h) (Nat.succ_ne_zero _).symm
    change e.source = 0 at hs
    rcases mem_loop.1 he with he | rfl | ⟨f, hf, rfl⟩ | rfl | rfl
    · simp at he
    · exact hv
    · exact absurd hs (Nat.succ_ne_zero _)
    · exact absurd hs (Nat.succ_ne_zero _)
    · exact absurd hs (Nat.succ_ne_zero _)
  · exact fun h => .free (mem_loop.2 (.inr (.inl rfl))) h

theorem language_star (ha : a.Proper) : a.star.language = KStar.kstar a.language := by
  rw [← Language.one_add_self_mul_kstar_eq_kstar]
  ext w
  rw [Language.mem_add, Language.mem_one, ← walk_rounds ha (proper_star ha) (by simp)]
  apply Iff.intro
  · intro h
    obtain ⟨e, he, v, hs, rfl, hv⟩ := Path.exists_step (mem_language.1 h) (Nat.succ_ne_zero _).symm
    change e.source = 0 at hs
    rcases mem_loop.1 he with he | rfl | ⟨f, hf, rfl⟩ | rfl | rfl
    · obtain rfl := List.mem_singleton.1 he
      exact .inl (hv.eq_of_no_exit (proper_star ha).no_exit).1
    · exact .inr hv
    · exact absurd hs (Nat.succ_ne_zero _)
    · exact absurd hs (Nat.succ_ne_zero _)
    · exact absurd hs (Nat.succ_ne_zero _)
  · intro h
    rcases h with rfl | h
    · exact .free (mem_loop.2 (.inl (List.mem_singleton.2 rfl))) (.refl _)
    · exact .free (mem_loop.2 (.inr (.inl rfl))) h

end Loop

end RegexMachine.Automaton
