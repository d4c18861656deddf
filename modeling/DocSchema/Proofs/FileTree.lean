import DocSchema.FileTree
import DocSchema.Proofs.Result

/-!
# Writing into a file tree

A file is written into a directory that is there, so that no write makes a directory. Paths
therefore lead to the same files before and after a write, and the write changes only the file that
its path leads to.
-/
namespace DocSchema.FileTree

def Place.inside? : Place → Option Path
  | .inside path => some path
  | _ => none

/-- The file of the tree that a path leads to. -/
def named (t : FileTree) (path : String) : Option Path :=
  (t.resolve path).toOption.bind Place.inside?

section Directories

variable {t : FileTree} {p q : Path}

theorem isDirectory_iff :
    t.isDirectory q = true ↔ q = [] ∨ ∃ f ∈ t.files, q <+: f.1 ∧ f.1 ≠ q := by
  simp [isDirectory]

theorem isDirectory_of_isPrefix (h : t.isDirectory p = true) (hq : q <+: p) :
    t.isDirectory q = true := by
  rw [isDirectory_iff] at h ⊢
  rcases h with rfl | ⟨f, hf, hp, hne⟩
  · exact .inl (List.prefix_nil.mp hq)
  · refine .inr ⟨f, hf, hq.trans hp, ?_⟩
    rintro rfl
    exact hne (hp.eq_of_length_le hq.length_le).symm

theorem inside?_resolveAbove (names : List String) :
    (resolveAbove names).toOption.bind Place.inside? = none := by
  induction names with
  | nil => rfl
  | cons name names ih =>
    rw [resolveAbove]
    split_ifs <;> first | exact ih | rfl

theorem isDirectory_above {names : List String} {directory : Path}
    (hd : t.isDirectory directory = true)
    (h : (t.resolveFrom directory names).toOption.bind Place.inside? = some p)
    (hq : q <+: p) (hne : q ≠ p) : t.isDirectory q = true := by
  induction names generalizing directory with
  | nil =>
    obtain rfl : directory = p := by simpa [resolveFrom, Except.toOption, Place.inside?] using h
    exact isDirectory_of_isPrefix hd hq
  | cons name names ih =>
    rw [resolveFrom] at h
    by_cases hblank : (name == "" || name == ".") = true
    · rw [if_pos hblank] at h
      exact ih hd h
    rw [if_neg hblank] at h
    by_cases hup : (name == "..") = true
    · rw [if_pos hup] at h
      split_ifs at h with htop
      · rw [inside?_resolveAbove] at h
        cases h
      · have habove := List.dropLast_prefix directory
        exact ih (isDirectory_of_isPrefix hd habove) h
    rw [if_neg hup] at h
    dsimp only at h
    split_ifs at h with hlong hlast hsub hfile
    · cases h
    · obtain rfl : directory ++ [name] = p := by simpa [Except.toOption, Place.inside?] using h
      exact isDirectory_of_isPrefix hd ((List.prefix_concat_iff.mp hq).resolve_left hne)
    · exact ih hsub h
    · cases h
    · cases h

/-- Resolving looks at directories only; files decide no more than how it fails. -/
theorem resolveFrom_congr {t' : FileTree} (hd : ∀ q, t'.isDirectory q = t.isDirectory q)
    (directory : Path) (names : List String) :
    (t'.resolveFrom directory names).toOption = (t.resolveFrom directory names).toOption := by
  induction names generalizing directory with
  | nil => rfl
  | cons name names ih =>
    rw [resolveFrom, resolveFrom]
    dsimp only
    rw [hd]
    split_ifs <;> first | exact ih _ | rfl

theorem named_congr {t' : FileTree} (hd : ∀ q, t'.isDirectory q = t.isDirectory q)
    (path : String) : t'.named path = t.named path := by
  have hr : (t'.resolve path).toOption = (t.resolve path).toOption := by
    rw [resolve, resolve]
    split_ifs <;> first | exact resolveFrom_congr hd _ _ | rfl
  rw [named, named, hr]

theorem named_eq_some {path : String} (h : t.named path = some p) :
    (t.resolveFrom [] (names path)).toOption.bind Place.inside? = some p := by
  rw [named, resolve] at h
  split_ifs at h
  · cases h
  · cases h
  · cases h
  · rw [resolveAbsolute] at h
    split_ifs at h <;> cases h
  · exact h

end Directories

section Write

variable {t t' : FileTree} {p : Path} {path text : String}

theorem content?_put (t : FileTree) (p q : Path) (text : String) :
    (t.put p text).content? q = if p = q then some text else t.content? q := by
  rw [put]
  by_cases hthere : (t.content? p).isSome = true
  · rw [if_pos hthere, content?, content?, List.find?_map, Option.map_map]
    have hkey : ((fun f : Path × String => f.1 == q) ∘
        fun f => if f.1 == p then (p, text) else f) = fun f => f.1 == q := by
      funext f
      by_cases hf : f.1 = p <;> simp [hf]
    rw [hkey]
    cases hf : t.files.find? (·.1 == q) with
    | none =>
      have hpq : p ≠ q := by
        rintro rfl
        simp [content?, hf] at hthere
      simp [hpq]
    | some f =>
      have hfq : f.1 = q := by simpa using List.find?_some hf
      by_cases hpq : p = q
      · simp [hfq, hpq]
      · simp [hfq, hpq, Ne.symm hpq]
  · rw [if_neg hthere]
    have hnone : t.files.find? (·.1 == p) = none := by
      simpa only [content?, Option.isSome_map, Bool.not_eq_true, Option.isSome_eq_false_iff,
        Option.isNone_iff_eq_none] using hthere
    split_ifs with hpq
    · subst hpq
      simp [content?, List.find?_append, hnone]
    · simp [content?, List.find?_append, hpq]

theorem isDirectory_put (h : ∀ q, q <+: p → q ≠ p → t.isDirectory q = true) (q : Path) :
    (t.put p text).isDirectory q = t.isDirectory q := by
  rw [put]
  split_ifs with hthere
  · rw [isDirectory, isDirectory, List.any_map]
    congr 2
    funext f
    by_cases hf : f.1 = p <;> simp [hf]
  · rw [Bool.eq_iff_iff, isDirectory_iff]
    constructor
    · rintro (rfl | ⟨f, hf, hq, hne⟩)
      · exact isDirectory_iff.mpr (.inl rfl)
      · rcases List.mem_append.mp hf with hf | hf
        · exact isDirectory_iff.mpr (.inr ⟨f, hf, hq, hne⟩)
        · obtain rfl := List.mem_singleton.mp hf
          exact h q hq hne.symm
    · intro hq
      refine (isDirectory_iff.mp hq).imp_right ?_
      rintro ⟨f, hf, hq, hne⟩
      exact ⟨f, List.mem_append_left _ hf, hq, hne⟩

/-- What a write does that succeeds: it puts the text into a file inside, or writes outside. -/
theorem write_eq_ok (h : t.write path text = .ok t') :
    (∃ p, t.named path = some p ∧ t' = t.put p text) ∨ (t.named path = none ∧ t' = t) := by
  unfold write at h
  by_cases hslash : (path.toList.getLast? == some '/') = true
  · rw [if_pos hslash] at h
    obtain ⟨_, -, h⟩ := bind_eq_ok.mp h
    cases h
  · rw [if_neg hslash] at h
    obtain ⟨place, hp, h⟩ := bind_eq_ok.mp h
    have hn : t.named path = place.inside? := by simp [named, hp, Except.toOption]
    rw [hn]
    cases place with
    | inside p =>
      dsimp only at h
      split_ifs at h
      · cases h
      · exact .inl ⟨p, rfl, by simpa using h.symm⟩
    | directory => cases h
    | outside => exact .inr ⟨rfl, by simpa using h.symm⟩
    | null => exact .inr ⟨rfl, by simpa using h.symm⟩

theorem named_write (h : t.write path text = .ok t') (other : String) :
    t'.named other = t.named other := by
  rcases write_eq_ok h with ⟨p, hp, rfl⟩ | ⟨-, rfl⟩
  · have habove (q : Path) : q <+: p → q ≠ p → t.isDirectory q = true :=
      isDirectory_above (isDirectory_iff.mpr (.inl rfl)) (named_eq_some hp)
    exact named_congr (isDirectory_put habove) other
  · rfl

theorem content?_write (h : t.write path text = .ok t') (q : Path) :
    t'.content? q = if t.named path = some q then some text else t.content? q := by
  rcases write_eq_ok h with ⟨p, hp, rfl⟩ | ⟨hn, rfl⟩
  · rw [content?_put, hp]
    simp
  · simp [hn]

end Write

end DocSchema.FileTree
