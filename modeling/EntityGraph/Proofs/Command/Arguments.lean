import Mathlib
import EntityGraph.Command.Arguments
import EntityGraph.Proofs.Outcome

/-!
# Options as they are given

An option is taken once it has its value, and only if it was not taken before and its value will do.
So however a command line goes on, the options taken so far differ from each other, and a socket is
told by a number (`ArgumentProgress.IsSound`).
-/

namespace EntityGraph

namespace ArgumentProgress

/-- No option was taken twice, and what was taken as a socket is the number of one. -/
structure IsSound (p : ArgumentProgress) : Prop where
  nodup : (p.given.map (·.option)).Nodup
  socket : ∀ g ∈ p.given, g.option = .httpPort → ∃ n, PortFault.socketNumber g.value = .ok n

variable {p p' : ArgumentProgress} {o : CommandOption}

theorem isSound_start : IsSound ⟨[], none⟩ := ⟨List.nodup_nil, fun _ h => nomatch h⟩

/-- What waits has not been taken. -/
theorem IsSound.waiting (hp : p.IsSound) (waiting : Option (CommandOption × Option String)) :
    IsSound { p with waiting } := ⟨hp.nodup, hp.socket⟩

theorem IsSound.take {value : String} (hp : p.IsSound) (h : p.take o value = .ok p') :
    p'.IsSound := by
  have hsound (hnew : ¬ (p.given.any fun g => g.option = o) = true)
      (hsocket : o = .httpPort → ∃ n, PortFault.socketNumber value = .ok n) :
      IsSound { p with given := p.given ++ [⟨o, value⟩] } := by
    refine ⟨?_, fun g hg => ?_⟩
    · rw [List.map_append, List.nodup_append]
      refine ⟨hp.nodup, List.nodup_singleton _, ?_⟩
      simp only [List.any_eq_true, decide_eq_true_eq, not_exists, not_and] at hnew
      simpa using hnew
    · rcases List.mem_append.1 hg with hg | hg
      · exact hp.socket g hg
      · obtain rfl := List.mem_singleton.1 hg
        exact hsocket
  rw [ArgumentProgress.take] at h
  split_ifs at h with hnew hempty hport
  · split at h
    · cases h
    · next n hn =>
      obtain rfl := Except.ok.inj h
      exact hsound hnew fun _ => ⟨n, hn⟩
  · obtain rfl := Except.ok.inj h
    exact hsound hnew fun h => absurd h hport

theorem IsSound.settle (hp : p.IsSound) (h : p.settle = .ok p') : p'.IsSound := by
  rw [ArgumentProgress.settle] at h
  split at h
  · obtain rfl := Except.ok.inj h
    exact hp
  · cases h
  · exact (hp.waiting none).take h

theorem IsSound.valued {value : Option String} (hp : p.IsSound) (h : p.valued o value = .ok p') :
    p'.IsSound := by
  obtain ⟨settled, hsettled, h⟩ := Outcome.bind_eq_ok.1 h
  have hsound := hp.settle hsettled
  split at h
  · exact hsound.take h
  · obtain rfl := Except.ok.inj h
    exact hsound.waiting _

theorem IsSound.plain (hp : p.IsSound) (h : p.plain o = .ok p') : p'.IsSound := by
  obtain ⟨settled, hsettled, h⟩ := Outcome.bind_eq_ok.1 h
  have hsound := hp.settle hsettled
  split at h
  · cases h
  · cases h
  · exact hsound.take h

theorem IsSound.long {argument : List Char} (hp : p.IsSound) (h : p.long argument = .ok p') :
    p'.IsSound := by
  rw [ArgumentProgress.long] at h
  simp only at h
  split at h
  · cases h
  · split at h
    · exact hp.valued h
    · cases h
    · exact hp.plain h

theorem IsSound.short {letters : List Char} (hp : p.IsSound) (h : p.short letters = .ok p') :
    p'.IsSound := by
  induction letters generalizing p with
  | nil =>
    obtain rfl := Except.ok.inj h
    exact hp
  | cons letter rest ih =>
    rw [ArgumentProgress.short] at h
    split at h
    · cases h
    · split at h
      · obtain ⟨taken, htaken, h⟩ := Outcome.bind_eq_ok.1 h
        exact ih (hp.plain htaken) h
      · exact hp.valued h
      · exact hp.valued h
      · exact hp.valued h

theorem IsSound.word {argument : String} (hp : p.IsSound) (h : p.word argument = .ok p') :
    p'.IsSound := by
  rw [ArgumentProgress.word] at h
  split at h
  · obtain rfl := Except.ok.inj h
    exact hp.waiting _
  · cases h

/-- Reading arguments takes none of the options twice. -/
theorem IsSound.readAll {arguments : List String} (hp : p.IsSound)
    (h : p.readAll arguments = .ok p') : p'.IsSound := by
  induction arguments generalizing p with
  | nil => exact hp.settle h
  | cons argument rest ih =>
    rw [ArgumentProgress.readAll.eq_def] at h
    simp only at h
    split at h
    · split at h
      · exact hp.settle h
      · cases h
    · obtain ⟨read, hread, h⟩ := Outcome.bind_eq_ok.1 h
      exact ih (hp.long hread) h
    · obtain ⟨read, hread, h⟩ := Outcome.bind_eq_ok.1 h
      exact ih (hp.short hread) h
    · obtain ⟨read, hread, h⟩ := Outcome.bind_eq_ok.1 h
      exact ih (hp.word hread) h

end ArgumentProgress

namespace Arguments

theorem read_eq_ok {arguments : List String} {p : ArgumentProgress}
    (h : ArgumentProgress.readAll ⟨[], none⟩ arguments = .ok p)
    (hcheck : check (p.given.map (·.option)) = .ok ()) :
    read arguments = .ok (ofGiven p.given) := by
  rw [read, h]
  simp only [bind, Except.bind, hcheck]
  rfl

theorem option_of_settingOf? {o o' : CommandOption} {setting : Setting}
    (h : settingOf? o = some setting) (h' : settingOf? o' = some setting) : o = o' := by
  cases o <;> cases h <;> cases o' <;> cases h' <;> rfl

/-- Every option but that of the socket gives the text behind it. -/
theorem settingValue_text {o : CommandOption} {setting : Setting}
    (h : settingOf? o = some setting) (hport : setting ≠ .httpPort) (text : String) :
    settingValue o text = .text text := by
  rw [settingValue]
  rintro n rfl -
  exact hport (Option.some.inj h).symm

theorem settingValue_socket {text : String} {n : UInt16} (h : PortFault.socketNumber text = .ok n) :
    settingValue .httpPort text = .unsigned n.toNat := by
  rw [settingValue.eq_def, h]

end Arguments

end EntityGraph
