import KubeJava.Generation.Classify
import KubeJava.Proofs.Names

set_option autoImplicit false

/-! # Numbering

Numbered names differ from one another and from the plain name, so among one more of them than there
are used names one is free: the search for a free name ends at the least number that gives one.
Type names are searched by their decorated form; affixes keep them apart. -/

namespace KubeJava

/-! ## Decimal digits -/

namespace Text

theorem ofChars_injective {s t : List Char} (h : ofChars s = ofChars t) : s = t := by
  simpa using congrArg chars? h

theorem decimal_injective {m n : Nat} (h : decimal m = decimal n) : m = n := by
  have hdigits := congrArg (Nat.ofDigitChars 10 · 0) (ofChars_injective h)
  simpa only [Nat.ofDigitChars_ten_toDigits] using hdigits

@[simp] theorem decimal_ne_nil (n : Nat) : decimal n ≠ [] := by
  simp [decimal, ofChars, Nat.toDigits_ne_nil]

theorem isWordChar_of_mem_decimal {n : Nat} : ∀ c ∈ decimal n, Java.isWordChar c = true := by
  intro c hc
  obtain ⟨d, hd, rfl⟩ := List.mem_map.1 hc
  have hdigit := Nat.isDigit_of_mem_toDigits (by omega) (by omega) hd
  simp only [Char.isDigit, Bool.and_eq_true, decide_eq_true_eq, UInt32.le_iff_toNat_le] at hdigit
  exact Java.isWordChar_iff.2 (.inr (.inr hdigit))

end Text

/-! ## The search for a free name -/

namespace Java

/-- The search passes used names only, and unless it runs out of tries it ends at a free one. -/
theorem firstFree_spec (candidate : Nat → Text) (used : List Text) (fuel n : Nat) :
    ∃ k, n ≤ k ∧ k ≤ n + fuel ∧ firstFree candidate used fuel n = candidate k ∧
      (∀ m, n ≤ m → m < k → candidate m ∈ used) ∧ (k < n + fuel → candidate k ∉ used) := by
  induction fuel generalizing n with
  | zero => exact ⟨n, by omega, by omega, rfl, fun m _ _ => by omega, fun _ => by omega⟩
  | succ fuel ih =>
    by_cases hn : candidate n ∈ used
    · obtain ⟨k, hnk, hk, heq, hused, hfree⟩ := ih (n + 1)
      refine ⟨k, by omega, by omega, ?_, fun m hm hmk => ?_, fun hlt => hfree (by omega)⟩
      · simpa [firstFree, hn] using heq
      · rcases Nat.lt_or_eq_of_le hm with hlt | rfl
        · exact hused m hlt hmk
        · exact hn
    · refine ⟨n, by omega, by omega, ?_, fun m _ _ => by omega, fun _ => hn⟩
      simp [firstFree, hn]

/-- If a name that is no candidate is used already, then as many tries as there are used names find
the first free candidate. -/
theorem firstFree_free (candidate : Nat → Text) (inj : ∀ i j, candidate i = candidate j → i = j)
    {base : Text} {used : List Text} (hbase : base ∈ used) (hne : ∀ m, candidate m ≠ base)
    (n : Nat) :
    ∃ k, n ≤ k ∧ k < n + used.length ∧
      firstFree candidate used used.length n = candidate k ∧ candidate k ∉ used ∧
      ∀ m, n ≤ m → m < k → candidate m ∈ used := by
  obtain ⟨k, hnk, hk, heq, hused, hfree⟩ := firstFree_spec candidate used used.length n
  -- Otherwise the name and all candidates tried would be too many used names.
  have hlt : k < n + used.length := by
    refine Nat.lt_of_le_of_ne hk fun hkn => ?_
    let tried := (List.range' n used.length).map candidate
    have hnodup : (base :: tried).Nodup := by
      refine List.nodup_cons.2 ⟨?_, List.Pairwise.map _ ?_ List.nodup_range'⟩
      · rw [List.mem_map]
        rintro ⟨m, -, hm⟩
        exact hne m hm
      · exact fun i j hij h => hij (inj i j h)
    have hsub : base :: tried ⊆ used := by
      refine List.cons_subset.2 ⟨hbase, fun t ht => ?_⟩
      obtain ⟨m, hm, rfl⟩ := List.mem_map.1 ht
      rw [List.mem_range'_1] at hm
      exact hused m hm.1 (by omega)
    have hlength := hnodup.length_le_of_subset hsub
    simp only [tried, List.length_cons, List.length_map, List.length_range'] at hlength
    omega
  exact ⟨k, hnk, hlt, heq, hfree hlt, hused⟩

/-- The candidate with a number after it. -/
def numbered (candidate : Text) (n : Nat) : Text := candidate ++ "_" ++ Text.decimal n

@[simp] theorem numbered_ne (candidate : Text) (n : Nat) : numbered candidate n ≠ candidate := by
  rw [numbered, List.append_assoc]
  exact fun h => absurd (List.append_right_eq_self.1 h) (by simp)

theorem numbered_injective (candidate : Text) {i j : Nat}
    (h : numbered candidate i = numbered candidate j) : i = j :=
  Text.decimal_injective (List.append_cancel_left h)

/-- A candidate keeps its name unless that is used; then it is numbered, and its new name is free. -/
theorem uniqueName_cases (candidate : Text) (used : List Text) :
    (candidate ∉ used ∧ uniqueName candidate used = candidate) ∨
      (candidate ∈ used ∧
        ∃ n, uniqueName candidate used = numbered candidate n ∧ numbered candidate n ∉ used) := by
  by_cases hused : candidate ∈ used
  · obtain ⟨n, -, -, heq, hfree, -⟩ := firstFree_free (numbered candidate)
      (fun _ _ => numbered_injective candidate) hused (numbered_ne candidate) 2
    refine .inr ⟨hused, n, ?_, hfree⟩
    rw [uniqueName, if_pos (by simpa using hused)]
    exact heq
  · exact .inl ⟨hused, by rw [uniqueName, if_neg (by simpa using hused)]⟩

@[simp] theorem uniqueName_not_mem (candidate : Text) (used : List Text) :
    uniqueName candidate used ∉ used := by
  rcases uniqueName_cases candidate used with ⟨hfree, heq⟩ | ⟨-, n, heq, hfree⟩
  · rwa [heq]
  · rwa [heq]

theorem hasIdentifierForm_numbered {t : Text} (h : isIdentifier t = true)
    (hfeed : ('\n' : CodePoint) ∉ t) (n : Nat) : hasIdentifierForm (numbered t n) = true := by
  rw [numbered, List.append_assoc]
  refine hasIdentifierForm_append (hasIdentifierForm_of_isIdentifier h hfeed) ?_
  exact List.forall_mem_append.2 ⟨by decide, fun c hc =>
    isConstantChar_of_isWordChar (Text.isWordChar_of_mem_decimal c hc)⟩

/-- A number after an identifier leaves it one, unless a line feed stands between them. -/
theorem isIdentifier_numbered {t : Text} (h : isIdentifier t = true)
    (hfeed : ('\n' : CodePoint) ∉ t) (n : Nat) : isIdentifier (numbered t n) = true := by
  refine isIdentifier_of_form (hasIdentifierForm_numbered h hfeed n)
    (Bool.eq_false_iff.2 fun hkeyword => ?_)
  -- The only keyword with an underscore is too short.
  have hmem : numbered t n ∈ keywords := by simpa [isKeyword] using hkeyword
  have hlone := (eq_underscore_of_keyword _ hmem).2 (by simp +decide [numbered])
  have hlength := congrArg List.length hlone
  have hname := List.length_pos_iff.2 (ne_nil_of_isIdentifier h)
  have hone : List.length ("_" : Text) = 1 := rfl
  simp only [numbered, List.length_append, hone] at hlength
  omega

theorem mem_uniqueName {candidate : Text} {used : List Text} {c : CodePoint}
    (h : c ∈ candidate) : c ∈ uniqueName candidate used := by
  rcases uniqueName_cases candidate used with ⟨-, heq⟩ | ⟨-, n, heq, -⟩
  · rwa [heq]
  · rw [heq, numbered, List.append_assoc]
    exact List.mem_append_left _ h

/-- What is given out for an identifier is one exactly if that has no line feed. -/
theorem isProperIdentifier_uniqueName_iff {candidate : Text} (h : isIdentifier candidate = true)
    (used : List Text) :
    IsProperIdentifier (uniqueName candidate used) ↔ ('\n' : CodePoint) ∉ candidate := by
  constructor
  · intro hproper hfeed
    exact not_mem_of_hasIdentifierForm hproper.form (by decide) (mem_uniqueName hfeed)
  · intro hfeed
    rcases uniqueName_cases candidate used with ⟨-, heq⟩ | ⟨-, n, heq, -⟩
    · rw [heq]
      exact (isProperIdentifier_iff h).2 hfeed
    · rw [heq]
      have hform := hasIdentifierForm_numbered h hfeed n
      exact (isProperIdentifier_iff (isIdentifier_numbered h hfeed n)).2
        (not_mem_of_hasIdentifierForm hform (by decide))

theorem IsProperIdentifier.uniqueName {candidate : Text} (h : IsProperIdentifier candidate)
    (used : List Text) : IsProperIdentifier (uniqueName candidate used) :=
  (isProperIdentifier_uniqueName_iff (isIdentifier_of_form h.form h.notKeyword) used).2
    (not_mem_of_hasIdentifierForm h.form (by decide))

/-- A number after a name changes it. -/
theorem append_decimal_injective (t : Text) {i j : Nat}
    (h : t ++ Text.decimal i = t ++ Text.decimal j) : i = j :=
  Text.decimal_injective (List.append_cancel_left h)

@[simp] theorem isBareName_append_decimal {t : Text} (h : isBareName t = true) (n : Nat) :
    isBareName (t ++ Text.decimal n) = true :=
  isBareName_append h Text.isWordChar_of_mem_decimal

end Java

/-! ## Names of nested types -/

namespace ObjectNode

variable {o : ObjectNode} {key base : Text} {used : List Text} {name : ReservedName}

/-- The decorated form of a nested type's bare name. -/
def decorated (o : ObjectNode) (bare : Text) : Text :=
  Java.decorate o.affixes o.settings false bare

theorem decorated_injective {x y : Text} (h : o.decorated x = o.decorated y) : x = y :=
  Java.decorate_injective _ _ _ h

@[simp] theorem nestedTypeName_eq_ok {bare n : Text} : o.nestedTypeName bare = .ok n ↔
    Java.isIdentifier (o.decorated bare) = true ∧ n = o.decorated bare :=
  Java.applyAffixes_eq_ok

/-- A name is reserved in its decorated form, which is an identifier. -/
structure Reserves (o : ObjectNode) (base : Text) (used : List Text) (name : ReservedName) :
    Prop where
  isBareName : Java.isBareName name.bare = true
  decorated_eq : name.decorated = o.decorated name.bare
  isIdentifier : Java.isIdentifier name.decorated = true
  not_mem : name.decorated ∉ used
  /-- The plain name if it is free, and otherwise the one with the least number that is free. -/
  least : (o.decorated base ∉ used ∧ name.bare = base) ∨
    (o.decorated base ∈ used ∧ ∃ k, 2 ≤ k ∧ name.bare = base ++ Text.decimal k ∧
      ∀ m, 2 ≤ m → m < k → o.decorated (base ++ Text.decimal m) ∈ used)

theorem numberedTypeName_eq_ok {fuel n : Nat}
    (h : o.numberedTypeName base used fuel n = .ok name) :
    (∃ k, name.bare = base ++ Text.decimal k) ∧ name.decorated = o.decorated name.bare ∧
      Java.isIdentifier name.decorated = true ∧
      name.decorated =
        Java.firstFree (fun k => o.decorated (base ++ Text.decimal k)) used fuel n := by
  induction fuel generalizing n with
  | zero =>
    simp only [numberedTypeName, bind_eq_ok, pure_eq_ok, nestedTypeName_eq_ok] at h
    obtain ⟨d, ⟨hid, rfl⟩, rfl⟩ := h
    exact ⟨⟨n, rfl⟩, rfl, hid, rfl⟩
  | succ fuel ih =>
    simp only [numberedTypeName, bind_eq_ok, nestedTypeName_eq_ok] at h
    obtain ⟨d, ⟨hid, rfl⟩, h⟩ := h
    rw [Java.firstFree]
    split at h
    · next hused =>
      rw [if_pos hused]
      exact ih h
    · next hfree =>
      rw [if_neg hfree]
      cases h
      exact ⟨⟨n, rfl⟩, rfl, hid, rfl⟩

/-- Whatever name is given out, it is a fresh one derived from the key. -/
theorem reserves_of_uniqueTypeName (h : o.uniqueTypeName key used = .ok name) :
    ∃ base, Java.typeName key = .ok base ∧ o.Reserves base used name := by
  simp only [uniqueTypeName, bind_eq_ok, nestedTypeName_eq_ok] at h
  obtain ⟨base, hbase, d, ⟨hid, rfl⟩, h⟩ := h
  have hbare := Java.isBareName_of_typeName hbase
  refine ⟨base, hbase, ?_⟩
  split at h
  · next hused =>
    have hmem : o.decorated base ∈ used := by simpa using hused
    -- Affixes keep bare names apart, so the search among decorated names finds a free one.
    obtain ⟨⟨k', hk'⟩, hdec, hid', hfirst⟩ := numberedTypeName_eq_ok h
    obtain ⟨k, hk, -, heq, hfree, hleast⟩ := Java.firstFree_free
      (fun k => o.decorated (base ++ Text.decimal k))
      (fun i j hij => Java.append_decimal_injective base (decorated_injective hij)) hmem
      (fun m hm => absurd (decorated_injective hm) (by simp)) 2
    rw [heq] at hfirst
    have hname : name.bare = base ++ Text.decimal k := decorated_injective (hdec ▸ hfirst)
    exact ⟨hname ▸ Java.isBareName_append_decimal hbare k, hdec, hid', hfirst ▸ hfree,
      .inr ⟨hmem, k, hk, hname, hleast⟩⟩
  · next hused =>
    have hmem : o.decorated base ∉ used := by simpa using hused
    cases h
    exact ⟨hbare, rfl, hid, hmem, .inl ⟨hmem, rfl⟩⟩

/-- With well-formed affixes every key that leads with a letter gets a name. -/
theorem exists_uniqueTypeName (ha : o.affixes.WellFormed)
    (hkey : Java.leadsWithLetter key = true) (used : List Text) :
    ∃ name, o.uniqueTypeName key used = .ok name := by
  have nested : ∀ bare, Java.isBareName bare = true →
      o.nestedTypeName bare = .ok (o.decorated bare) := fun bare hbare =>
    nestedTypeName_eq_ok.2 ⟨Java.isIdentifier_decorate ha _ _ hbare, rfl⟩
  have hbase : Java.typeName key = .ok (Java.pascalCase key) :=
    Java.typeName_eq_ok.2 ⟨hkey, rfl⟩
  have hbare := Java.isBareName_of_typeName hbase
  -- A number turns a bare name into a bare name, so no step of the search fails.
  have numbered : ∀ fuel n,
      ∃ name, o.numberedTypeName (Java.pascalCase key) used fuel n = .ok name := by
    intro fuel
    induction fuel with
    | zero =>
      intro n
      rw [numberedTypeName, nested _ (Java.isBareName_append_decimal hbare n)]
      exact ⟨_, rfl⟩
    | succ fuel ih =>
      intro n
      rw [numberedTypeName, nested _ (Java.isBareName_append_decimal hbare n)]
      simp only [bind_eq_ok, Except.ok.injEq, exists_eq_left']
      split
      · exact ih (n + 1)
      · exact ⟨_, rfl⟩
  simp only [uniqueTypeName, hbase, nested _ hbare, bind_eq_ok, Except.ok.injEq, exists_eq_left']
  split
  · exact numbered used.length 2
  · exact ⟨_, rfl⟩

end ObjectNode

end KubeJava
