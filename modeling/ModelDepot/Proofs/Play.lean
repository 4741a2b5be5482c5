/-!
Systems that are moved from state to state. Which moves are made, and in which order, is open: what
holds of every list of moves that can be made holds of every interleaving.
-/
namespace ModelDepot

/-- The state after some moves, if each of them can be made when it is due. -/
def play {μ σ : Type} (act : μ → σ → Option σ) : List μ → σ → Option σ
  | [], s => some s
  | move :: more, s => (act move s).bind (play act more)

/-- What every move keeps holds after all of them. -/
theorem play_keeps {μ σ : Type} {act : μ → σ → Option σ} {inv : σ → Prop}
    (kept : ∀ move s s', inv s → act move s = some s' → inv s') {moves : List μ} {s t : σ}
    (start : inv s) (played : play act moves s = some t) : inv t := by
  induction moves generalizing s with
  | nil =>
    obtain rfl := Option.some.inj played
    exact start
  | cons move more ih =>
    obtain ⟨s', moved, rest⟩ := Option.bind_eq_some_iff.mp played
    exact ih (kept move s s' start moved) rest

@[simp] theorem play_append {μ σ : Type} (act : μ → σ → Option σ) (first second : List μ) (s : σ) :
    play act (first ++ second) s = (play act first s).bind (play act second) := by
  induction first generalizing s with
  | nil => rfl
  | cons move more ih =>
    simp only [List.cons_append, play, Option.bind_assoc]
    congr 1
    funext s'
    exact ih s'

/-- Some moves lead to the state. -/
def Attains {μ σ : Type} (act : μ → σ → Option σ) (s t : σ) : Prop := ∃ moves, play act moves s = some t

theorem Attains.still {μ σ : Type} {act : μ → σ → Option σ} {s : σ} : Attains act s s := ⟨[], rfl⟩

theorem Attains.move {μ σ : Type} {act : μ → σ → Option σ} {s t u : σ} {move : μ} (attains : Attains act s t)
    (moved : act move t = some u) : Attains act s u := by
  obtain ⟨moves, played⟩ := attains
  exact ⟨moves ++ [move], by simp only [play_append, played, play, moved, Option.bind_some]⟩

end ModelDepot
