import TokenListing.Command.Run
import TokenListing.Proofs.Config.Loading

/-! # Options ask for room

No sequence of arguments and no environment leads to options that ask for chunks without room. What
an option does to the others is nothing, so it is enough that a capacity that is read has room.
-/
namespace TokenListing.Command

namespace Options

def Roomy (options : Options) : Prop :=
  ∀ capacity, options.chunkCapacity = some capacity → 0 < capacity

theorem roomy_of_same {options other : Options} (h : options.Roomy)
    (same : other.chunkCapacity = options.chunkCapacity) : other.Roomy := by
  intro capacity asked
  exact h capacity (same ▸ asked)

theorem capacity?_pos {text : String} {capacity : Nat} (h : capacity? text = some capacity) :
    0 < capacity := by
  simp [capacity?] at h
  obtain ⟨-, ⟨least, -⟩, rfl⟩ := h
  exact least

variable {options parsed : Options}

theorem Roomy.setFlag {flag : Flag} (h : options.Roomy)
    (set : options.setFlag flag = .ok parsed) : parsed.Roomy := by
  cases flag with
  | verbose =>
    rw [Options.setFlag] at set
    split at set
    · cases set
    · cases set
      exact roomy_of_same h rfl
  | noColor =>
    rw [Options.setFlag] at set
    split at set
    · cases set
    · cases set
      exact roomy_of_same h rfl
  | help => cases set
  | version => cases set
  | config => cases set
  | chunkCapacity => cases set

theorem Roomy.setValue {flag : Flag} {value : String} (h : options.Roomy)
    (set : options.setValue flag value = .ok parsed) : parsed.Roomy := by
  cases flag with
  | config =>
    rw [Options.setValue] at set
    split at set
    · cases set
    · split at set
      · cases set
      · cases set
        exact roomy_of_same h rfl
  | chunkCapacity =>
    rw [Options.setValue] at set
    split at set
    · cases set
    · split at set
      next capacity read =>
        cases set
        intro asked same
        cases same
        exact capacity?_pos read
      · cases set
  | verbose => cases set
  | noColor => cases set
  | help => cases set
  | version => cases set

theorem Roomy.setInput {argument : String} (h : options.Roomy)
    (set : options.setInput argument = .ok parsed) : parsed.Roomy := by
  rw [Options.setInput] at set
  split at set
  · cases set
  · split at set
    · cases set
    · cases set
      exact roomy_of_same h rfl

theorem Roomy.readShort {text : List Char} {waiting : Option Flag} (h : options.Roomy)
    (read : options.readShort text = .ok (parsed, waiting)) : parsed.Roomy := by
  fun_induction Options.readShort options text with
  | case1 options =>
    cases read
    exact h
  | case2 => cases read
  | case3 options c flag found takes =>
    cases read
    exact h
  | case4 options c flag found takes value =>
    obtain ⟨set, valued, same⟩ := exists_of_bind_ok read
    cases same
    exact h.setValue valued
  | case5 options c value flag found takes nonempty other =>
    obtain ⟨set, valued, same⟩ := exists_of_bind_ok read
    cases same
    exact h.setValue valued
  | case6 options c rest flag found takes ih =>
    obtain ⟨set, flagged, more⟩ := exists_of_bind_ok read
    exact ih set (h.setFlag flagged) more

theorem Roomy.readLong {text : List Char} {waiting : Option Flag} (h : options.Roomy)
    (read : options.readLong text = .ok (parsed, waiting)) : parsed.Roomy := by
  unfold Options.readLong at read
  dsimp only at read
  split at read
  · cases read
  · split at read
    · cases read
      exact h
    · obtain ⟨set, flagged, same⟩ := exists_of_bind_ok read
      cases same
      exact h.setFlag flagged
  · obtain ⟨set, valued, same⟩ := exists_of_bind_ok read
    cases same
    exact h.setValue valued

theorem Roomy.readOptions {argument : String} {waiting : Option Flag} (h : options.Roomy)
    (read : options.readOptions argument = .ok (parsed, waiting)) : parsed.Roomy := by
  unfold Options.readOptions at read
  split at read
  · exact h.readLong read
  · exact h.readShort read
  · cases read
    exact h

theorem Roomy.setInputs {arguments : List String} (h : options.Roomy)
    (set : arguments.foldlM Options.setInput options = .ok parsed) : parsed.Roomy := by
  induction arguments generalizing options with
  | nil =>
    cases set
    exact h
  | cons argument rest ih =>
    rw [List.foldlM_cons] at set
    obtain ⟨first, taken, more⟩ := exists_of_bind_ok set
    exact ih (h.setInput taken) more

theorem Roomy.readArguments {waiting : Option Flag} {arguments : List String} (h : options.Roomy)
    (read : options.readArguments waiting arguments = .ok parsed) : parsed.Roomy := by
  induction arguments generalizing options waiting with
  | nil =>
    cases waiting with
    | some flag => cases read
    | none =>
      cases read
      exact h
  | cons argument rest ih =>
    cases waiting with
    | some flag =>
      rw [Options.readArguments] at read
      split at read
      · cases read
      · obtain ⟨set, valued, more⟩ := exists_of_bind_ok read
        exact ih (h.setValue valued) more
    | none =>
      rw [Options.readArguments] at read
      split at read
      · exact h.setInputs read
      · split at read
        · obtain ⟨⟨set, waiting⟩, named, more⟩ := exists_of_bind_ok read
          exact ih (h.readOptions named) more
        · obtain ⟨set, given, more⟩ := exists_of_bind_ok read
          exact ih (h.setInput given) more

theorem Roomy.withEnvironment {environment : Environment} (h : options.Roomy)
    (read : options.withEnvironment environment = .ok parsed) : parsed.Roomy := by
  unfold Options.withEnvironment at read
  dsimp only at read
  split at read
  · obtain ⟨set, valued, same⟩ := exists_of_bind_ok read
    cases same
    exact roomy_of_same (h.setValue valued) rfl
  · cases read
    exact roomy_of_same h rfl

end Options

end TokenListing.Command
