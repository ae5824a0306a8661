import JarLauncher.Path

/-!
Names in directories. A path joined with a name has the components of the directory and then the name. A path that
ends in a name leads from its parent to that name, however the parent is spelled.
-/

namespace JarLauncher.Path

structure IsName (name : Bytes) : Prop where
  ne_nil : name ≠ []
  separator_notMem : separator ∉ name
  ne_here : name ≠ [dot]
  ne_up : name ≠ [dot, dot]

def IsEntry (path directory : Path) (name : Bytes) : Prop :=
  path.components = directory.components ++ [.named name]

namespace IsName

variable {name : Bytes}

theorem componentOf_eq (proper : IsName name) (first : Bool) :
    componentOf first name = some (.named name) := by
  simp [componentOf, proper.ne_nil, proper.ne_here, proper.ne_up]

theorem splitOn_eq (proper : IsName name) : name.splitOn separator = [name] :=
  List.splitOn_eq_singleton proper.separator_notMem

theorem isAbsolute_eq_false (proper : IsName name) : isAbsolute ⟨name⟩ = false := by
  cases name with
  | nil => rfl
  | cons byte rest =>
      have other : byte ≠ separator := fun same => proper.separator_notMem (by simp [same])
      simp [isAbsolute, other]

end IsName

theorem locate_cons (start : Nat) (first : Bool) (segment : Bytes) (rest : List Bytes) :
    locate start first (segment :: rest) =
      ((componentOf first segment).map fun component => (component, start + segment.length)).toList ++
        locate (start + segment.length + 1) false rest := by
  rw [locate]
  cases componentOf first segment <;> rfl

/-- Where segments are found by themselves and with others behind them. -/
theorem locate_append (segments others : List Bytes) :
    ∀ (start : Nat) (first : Bool), ∃ later,
      locate start first (segments ++ others) =
        locate start first segments ++ locate later (first && segments.isEmpty) others := by
  induction segments with
  | nil =>
      intro start first
      exact ⟨start, by simp [locate]⟩
  | cons segment segments ih =>
      intro start first
      obtain ⟨later, rest⟩ := ih (start + segment.length + 1) false
      refine ⟨later, ?_⟩
      rw [List.cons_append, locate_cons, locate_cons, rest, List.append_assoc]
      simp

theorem locate_name (start : Nat) (first : Bool) {name : Bytes} (proper : IsName name) :
    locate start first [name] = [(.named name, start + name.length)] := by
  rw [locate_cons, proper.componentOf_eq]
  rfl

theorem locate_nil (start : Nat) (first : Bool) : locate start first [[]] = [] := rfl

theorem bytes_join (base : Path) {name : Bytes} (proper : IsName name) :
    (base.join ⟨name⟩).bytes =
      if base.bytes = [] ∨ base.bytes.getLast? = some separator then base.bytes ++ name
      else base.bytes ++ separator :: name := by
  simp only [join, proper.isAbsolute_eq_false, Bool.false_eq_true, if_false, Bool.or_eq_true,
    decide_eq_true_eq]
  split <;> rfl

theorem isAbsolute_join (base : Path) {name : Bytes} (proper : IsName name) :
    (base.join ⟨name⟩).isAbsolute = base.isAbsolute := by
  obtain ⟨bytes⟩ := base
  rw [isAbsolute, bytes_join _ proper]
  cases bytes with
  | nil => exact proper.isAbsolute_eq_false
  | cons byte rest => split <;> rfl

/-- How a directory and a name are put together: the segments of the directory, except for an empty one behind
its last slash, are followed by the name. -/
theorem splitOn_join (base : Path) {name : Bytes} (proper : IsName name) :
    ∃ front : List Bytes,
      (base.join ⟨name⟩).bytes.splitOn separator = front ++ [name] ∧
      (base.bytes.splitOn separator = front ∧ front ≠ [] ∨
        base.bytes.splitOn separator = front ++ [[]]) := by
  obtain ⟨bytes⟩ := base
  rw [bytes_join _ proper]
  rcases List.eq_nil_or_concat bytes with rfl | ⟨body, last, rfl⟩
  · exact ⟨[], by simp [proper.splitOn_eq], .inr rfl⟩
  · rw [List.concat_eq_append]
    by_cases slash : last = separator
    · subst slash
      refine ⟨body.splitOn separator, ?_, .inr ?_⟩
      · simp [proper.splitOn_eq, List.splitOn_append_cons_self]
      · rw [List.splitOn_append_cons_self, List.splitOn_nil]
    · have unfinished : ¬(body ++ [last] = [] ∨ (body ++ [last]).getLast? = some separator) := by
        simp [slash]
      rw [if_neg unfinished]
      refine ⟨(body ++ [last]).splitOn separator, ?_, .inl ⟨rfl, List.splitOn_ne_nil _ _⟩⟩
      rw [List.splitOn_append_cons_self, proper.splitOn_eq]

/-- The places of the components of a directory and a name: those of the directory, and then the name's. -/
theorem located_join (base : Path) {name : Bytes} (proper : IsName name) :
    ∃ stop, (base.join ⟨name⟩).located = base.located ++ [(.named name, stop)] := by
  obtain ⟨front, joined, alone⟩ := splitOn_join base proper
  -- An empty last segment of the directory stands for no component.
  have same (first : Bool) : locate 0 first (base.bytes.splitOn separator) = locate 0 first front := by
    rcases alone with ⟨whole, -⟩ | slashed
    · rw [whole]
    · obtain ⟨later, split⟩ := locate_append front [[]] 0 first
      rw [slashed, split]
      cases front with
      | nil => cases first <;> rfl
      | cons segment rest => simp [locate_nil]
  have added (first : Bool) : ∃ stop,
      locate 0 first (front ++ [name]) = locate 0 first front ++ [(.named name, stop)] := by
    obtain ⟨later, split⟩ := locate_append front [name] 0 first
    exact ⟨later + name.length, by rw [split, locate_name _ _ proper]⟩
  simp only [located, isAbsolute_join base proper, joined, same]
  cases base.isAbsolute with
  | true =>
      obtain ⟨stop, split⟩ := added false
      exact ⟨stop, by simp [split]⟩
  | false =>
      obtain ⟨stop, split⟩ := added true
      exact ⟨stop, by simp [split]⟩

/-- A path joined with a name has the components of the directory, and then the name. -/
theorem components_join (base : Path) {name : Bytes} (proper : IsName name) :
    (base.join ⟨name⟩).components = base.components ++ [.named name] := by
  obtain ⟨stop, places⟩ := located_join base proper
  simp [components, places]

theorem fileName?_join (base : Path) {name : Bytes} (proper : IsName name) :
    (base.join ⟨name⟩).fileName? = some name := by
  simp [fileName?, components_join base proper]

/-- A component that is found comes from the first segment, or from those behind it. -/
theorem locate_cons_eq_append {start stop : Nat} {first : Bool} {segment : Bytes} {rest : List Bytes}
    {before later : List (Component × Nat)} {component : Component}
    (places : locate start first (segment :: rest) = before ++ (component, stop) :: later) :
    before = [] ∧ componentOf first segment = some component ∧ stop = start + segment.length ∨
      ∃ inner, locate (start + segment.length + 1) false rest = inner ++ (component, stop) :: later ∧
        before = ((componentOf first segment).map fun found => (found, start + segment.length)).toList ++ inner := by
  rw [locate_cons] at places
  cases found : componentOf first segment with
  | none =>
      rw [found] at places
      exact .inr ⟨before, places, rfl⟩
  | some head =>
      rw [found] at places
      cases before with
      | nil =>
          obtain ⟨same, -⟩ := List.cons.inj places
          cases same
          exact .inl ⟨rfl, rfl, rfl⟩
      | cons place before =>
          obtain ⟨rfl, others⟩ := List.cons.inj places
          exact .inr ⟨before, others, rfl⟩

/-- What stands up to the end of a component has the components up to it, at the same places. -/
theorem locate_take (bound : Nat) :
    ∀ (bytes : Bytes) (start : Nat) (first : Bool) (before later : List (Component × Nat))
        (component : Component) (stop : Nat),
      bytes.length < bound →
      locate start first (bytes.splitOn separator) = before ++ (component, stop) :: later →
      start ≤ stop ∧ stop - start ≤ bytes.length ∧
        locate start first ((bytes.take (stop - start)).splitOn separator) = before ++ [(component, stop)] := by
  induction bound with
  | zero =>
      intro bytes start first before later component stop impossible
      exact absurd impossible (Nat.not_lt_zero _)
  | succ bound ih =>
      intro bytes start first before later component stop within places
      by_cases slash : separator ∈ bytes
      · obtain ⟨segment, rest, rfl, free⟩ := List.eq_append_cons_of_mem slash
        rw [List.splitOn_append_cons_self_of_not_mem free] at places
        rcases locate_cons_eq_append places with ⟨rfl, here, rfl⟩ | ⟨inner, found, rfl⟩
        · have taken : (segment ++ separator :: rest).take (start + segment.length - start) = segment := by
            simp
          refine ⟨by omega, by simp, ?_⟩
          rw [taken, List.splitOn_eq_singleton free, locate_cons, here]
          rfl
        · obtain ⟨above, short, kept⟩ := ih rest (start + segment.length + 1) false inner later component stop
            (by simp at within; omega) found
          have taken : (segment ++ separator :: rest).take (stop - start) =
              segment ++ separator :: rest.take (stop - (start + segment.length + 1)) := by
            have split : stop - start =
                segment.length + (stop - (start + segment.length + 1) + 1) := by omega
            rw [split, List.take_length_add_append, List.take_succ_cons]
          refine ⟨by omega, by simp; omega, ?_⟩
          rw [taken, List.splitOn_append_cons_self_of_not_mem free, locate_cons, kept, List.append_assoc]
      · rw [List.splitOn_eq_singleton slash] at places
        rcases locate_cons_eq_append places with ⟨rfl, here, rfl⟩ | ⟨inner, found, -⟩
        · have taken : bytes.take (start + bytes.length - start) = bytes := by simp
          refine ⟨by omega, by omega, ?_⟩
          rw [taken, List.splitOn_eq_singleton slash, locate_cons, here]
          rfl
        · simp [locate] at found

/-- What stands up to the end of a component of a path has the components up to it. -/
theorem components_take {path : Path} {before later : List (Component × Nat)} {component : Component}
    {stop : Nat} (places : path.located = before ++ (component, stop) :: later) :
    stop ≤ path.bytes.length ∧
      components ⟨path.bytes.take stop⟩ = before.map Prod.fst ++ [component] := by
  obtain ⟨bytes⟩ := path
  have start := locate_take (bytes.length + 1) bytes 0
  cases absolute : isAbsolute ⟨bytes⟩ with
  | false =>
      simp only [located, absolute, Bool.false_eq_true, if_false] at places
      obtain ⟨-, short, kept⟩ := start true before later component stop (Nat.lt_succ_self _) places
      have relative : isAbsolute ⟨bytes.take stop⟩ = false := by
        cases bytes with
        | nil => simpa using absolute
        | cons byte rest => cases stop with
          | zero => rfl
          | succ stop => exact absolute
      refine ⟨by simpa using short, ?_⟩
      simp only [components, located, relative, Bool.false_eq_true, if_false]
      simpa using congrArg (List.map Prod.fst) kept
  | true =>
      obtain ⟨rest, rfl⟩ : ∃ rest, bytes = separator :: rest := by
        cases bytes with
        | nil => cases absolute
        | cons byte rest => exact ⟨rest, by simpa [isAbsolute] using absolute⟩
      simp only [located, absolute, if_true] at places
      cases before with
      | nil =>
          -- The root ends behind the first slash.
          obtain ⟨root, -⟩ := List.cons.inj places
          cases root
          exact ⟨by simp, rfl⟩
      | cons root before =>
          obtain ⟨rfl, others⟩ := List.cons.inj places
          obtain ⟨-, short, kept⟩ := start false before later component stop (Nat.lt_succ_self _) others
          rw [Nat.sub_zero] at short kept
          cases stop with
          | zero =>
              have nothing := congrArg List.length kept
              simp [locate_nil] at nothing
          | succ stop =>
              have still : isAbsolute ⟨(separator :: rest).take (stop + 1)⟩ = true := absolute
              refine ⟨short, ?_⟩
              simp only [components, located, still, if_true, kept]
              simp

theorem separator_notMem_splitOn {bytes segment : Bytes} (member : segment ∈ bytes.splitOn separator) :
    separator ∉ segment := by
  induction bytes generalizing segment with
  | nil =>
      rw [List.splitOn_nil, List.mem_singleton] at member
      simp [member]
  | cons byte bytes ih =>
      rw [List.splitOn_cons_eq_if_modifyHead] at member
      obtain ⟨head, others, whole⟩ := List.exists_cons_of_ne_nil (List.splitOn_ne_nil separator bytes)
      rw [whole] at member ih
      split at member
      · rcases List.mem_cons.mp member with rfl | later
        · simp
        · exact ih later
      · rename_i other
        rcases List.mem_cons.mp member with rfl | later
        · have apart : separator ≠ byte := fun same => other (beq_iff_eq.mpr same.symm)
          exact List.not_mem_cons_of_ne_of_not_mem apart (ih List.mem_cons_self)
        · exact ih (List.mem_cons_of_mem head later)

/-- What is found as a name is a proper one. -/
theorem isName_of_mem_locate {name : Bytes} {stop : Nat} {segments : List Bytes}
    (free : ∀ segment ∈ segments, separator ∉ segment) :
    ∀ {start : Nat} {first : Bool}, (.named name, stop) ∈ locate start first segments → IsName name := by
  induction segments with
  | nil => intro start first member; cases member
  | cons segment segments ih =>
      intro start first member
      rw [locate_cons, List.mem_append] at member
      rcases member with here | later
      · have found : componentOf first segment = some (.named name) := by
          cases whole : componentOf first segment <;> simp_all
        unfold componentOf at found
        split at found
        · cases found
        split at found
        · split at found <;> cases found
        split at found
        · cases found
        · rename_i some notHere notUp
          cases found
          exact ⟨some, free _ List.mem_cons_self, notHere, notUp⟩
      · exact ih (fun other inside => free other (List.mem_cons_of_mem segment inside)) later

/-- A path that ends in a name leads from its parent to an entry with that name. -/
theorem exists_parent_of_fileName? {path : Path} {name : Bytes} (named : path.fileName? = some name) :
    IsName name ∧ ∃ parent, path.parent? = some parent ∧ path.IsEntry parent name := by
  have last : path.components.getLast? = some (.named name) := by
    unfold fileName? at named
    split at named
    · rename_i found
      rw [found, Option.some.inj named]
    · cases named
  rw [components, List.getLast?_map, Option.map_eq_some_iff] at last
  obtain ⟨⟨component, stop⟩, ends, rfl⟩ := last
  obtain ⟨before, places⟩ := List.getLast?_eq_some_iff.mp ends
  have proper : IsName name := by
    have member : (.named name, stop) ∈ path.located := by simp [places]
    unfold located at member
    split at member
    · rcases List.mem_cons.mp member with root | later
      · cases root
      · exact isName_of_mem_locate (fun _ => separator_notMem_splitOn) later
    · exact isName_of_mem_locate (fun _ => separator_notMem_splitOn) member
  refine ⟨proper, ?_⟩
  rcases List.eq_nil_or_concat before with rfl | ⟨front, ⟨component, ending⟩, rfl⟩
  · refine ⟨⟨[]⟩, by simp [parent?, places], ?_⟩
    simp only [IsEntry, components, places]
    rfl
  · rw [List.concat_eq_append] at places
    have middle : path.located = front ++ (component, ending) :: [(.named name, stop)] := by simp [places]
    refine ⟨⟨path.bytes.take ending⟩, by simp [parent?, places], ?_⟩
    rw [IsEntry, (components_take middle).2]
    simp [components, places]

/-- The parent of a path that ends in a name in a directory has the components of the directory. -/
theorem parent?_join (base : Path) {name : Bytes} (proper : IsName name) :
    ∃ parent, (base.join ⟨name⟩).parent? = some parent ∧ parent.components = base.components := by
  obtain ⟨-, parent, above, leads⟩ := exists_parent_of_fileName? (fileName?_join base proper)
  rw [IsEntry, components_join base proper] at leads
  exact ⟨parent, above, (List.append_inj_left' leads rfl).symm⟩

namespace IsEntry

variable {path other directory otherDirectory : Path} {name otherName : Bytes}

theorem join (base : Path) (proper : IsName name) : (base.join ⟨name⟩).IsEntry base name :=
  components_join base proper

theorem congr (leads : path.IsEntry directory name) (same : directory.components = other.components) :
    path.IsEntry other name := by
  rw [IsEntry, leads, same]

/-- Two entries are in the same place exactly if they have the same name in the same directory. -/
theorem components_inj (leads : path.IsEntry directory name) (otherLeads : other.IsEntry otherDirectory otherName) :
    path.components = other.components ↔
      directory.components = otherDirectory.components ∧ name = otherName := by
  rw [leads, otherLeads, List.append_singleton_inj, Component.named.injEq]

end IsEntry
end JarLauncher.Path
