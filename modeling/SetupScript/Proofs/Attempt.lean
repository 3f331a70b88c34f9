/-!
# Attempts

When attempts that follow each other, or that are made for every item of a list, have a result, and
where they fail.
-/

namespace SetupScript.Attempt

variable {Item Image Fault Cause : Type} {fault : Fault}

/-- Whether an attempt fails with a fault can be seen from the fault alone. -/
instance decidableEqError [DecidableEq Fault] (attempt : Except Fault Item) (fault : Fault) :
    Decidable (attempt = .error fault) :=
  match attempt with
  | .error found => decidable_of_iff (found = fault) (by rw [Except.error.injEq])
  | .ok _ => isFalse nofun

/-! ## One behind the other -/

section Sequences

variable {attempt : Except Fault Item} {next : Item → Except Fault Image}

theorem bind_eq_ok_iff {image : Image} :
    attempt >>= next = .ok image ↔ ∃ item, attempt = .ok item ∧ next item = .ok image := by
  cases attempt with
  | error cause => exact iff_of_false nofun nofun
  | ok item =>
    constructor
    · intro passed
      exact ⟨item, rfl, passed⟩
    · rintro ⟨other, found, passed⟩
      cases found
      exact passed

theorem bind_eq_error_iff :
    attempt >>= next = .error fault ↔
      attempt = .error fault ∨ ∃ item, attempt = .ok item ∧ next item = .error fault := by
  cases attempt with
  | error cause =>
    constructor
    · intro failed
      cases failed
      exact Or.inl rfl
    · rintro (failed | ⟨_, found, _⟩)
      · cases failed
        rfl
      · cases found
  | ok item =>
    constructor
    · intro failed
      exact Or.inr ⟨item, rfl, failed⟩
    · rintro (failed | ⟨other, found, failed⟩)
      · cases failed
      · cases found
        exact failed

/-- What is made of a result does not fail. -/
theorem bind_pure_eq_error_iff (make : Item → Image) :
    (attempt >>= fun item => pure (make item)) = .error fault ↔ attempt = .error fault := by
  rw [bind_eq_error_iff, or_iff_left]
  rintro ⟨_, _, failed⟩
  cases failed

end Sequences

section Causes

variable {attempt : Except Cause Item} {told : Cause → Fault}

theorem mapError_eq_ok_iff {item : Item} :
    attempt.mapError told = .ok item ↔ attempt = .ok item := by
  cases attempt with
  | error cause => exact iff_of_false nofun nofun
  | ok other =>
    show Except.ok other = _ ↔ Except.ok other = _
    rw [Except.ok.injEq, Except.ok.injEq]

theorem mapError_eq_error_iff :
    attempt.mapError told = .error fault ↔ ∃ cause, attempt = .error cause ∧ told cause = fault := by
  cases attempt with
  | error cause =>
    constructor
    · intro failed
      cases failed
      exact ⟨cause, rfl, rfl⟩
    · rintro ⟨other, found, rfl⟩
      cases found
      rfl
  | ok item => exact iff_of_false nofun nofun

end Causes

/-! ## For every item -/

/-- In a list there is something bad, and all in front of it is good. -/
inductive FirstBad (Good Bad : Item → Prop) : List Item → Prop
  | here {item : Item} (bad : Bad item) (rest : List Item) : FirstBad Good Bad (item :: rest)
  | later {item : Item} {rest : List Item} (good : Good item) (others : FirstBad Good Bad rest) :
      FirstBad Good Bad (item :: rest)

variable {read : Item → Except Fault Image} {Good Bad : Item → Prop}

/-- A traversal has a result exactly if every item is good. -/
theorem exists_mapM_eq_ok_iff (good : ∀ item, (∃ image, read item = .ok image) ↔ Good item)
    (items : List Item) :
    (∃ images, items.mapM read = .ok images) ↔ ∀ item ∈ items, Good item := by
  induction items with
  | nil => exact iff_of_true ⟨[], rfl⟩ nofun
  | cons item items ih =>
    rw [List.forall_mem_cons, ← good, ← ih, List.mapM_cons]
    constructor
    · rintro ⟨images, passed⟩
      obtain ⟨image, first, rest⟩ := bind_eq_ok_iff.1 passed
      obtain ⟨others, later, _⟩ := bind_eq_ok_iff.1 rest
      exact ⟨⟨image, first⟩, others, later⟩
    · rintro ⟨⟨image, first⟩, images, later⟩
      exact ⟨image :: images, bind_eq_ok_iff.2 ⟨image, first, bind_eq_ok_iff.2 ⟨images, later, rfl⟩⟩⟩

/-- A traversal breaks off at the first item that is not good. -/
theorem mapM_eq_error_iff (good : ∀ item, (∃ image, read item = .ok image) ↔ Good item)
    (bad : ∀ item, read item = .error fault ↔ Bad item) (items : List Item) :
    items.mapM read = .error fault ↔ FirstBad Good Bad items := by
  induction items with
  | nil => exact iff_of_false nofun nofun
  | cons item items ih =>
    rw [List.mapM_cons, bind_eq_error_iff]
    constructor
    · rintro (failed | ⟨image, passed, failed⟩)
      · exact .here ((bad item).1 failed) items
      · rw [bind_pure_eq_error_iff] at failed
        exact .later ((good item).1 ⟨image, passed⟩) (ih.1 failed)
    · intro broken
      cases broken with
      | here isBad => exact Or.inl ((bad item).2 isBad)
      | later isGood others =>
        obtain ⟨image, passed⟩ := (good item).2 isGood
        exact Or.inr ⟨image, passed, (bind_pure_eq_error_iff _).2 (ih.2 others)⟩

end SetupScript.Attempt
