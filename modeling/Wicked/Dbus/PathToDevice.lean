import Mathlib.Data.List.Basic

/-!
# The addrconf object path

`ni_objectmodel_addrconf_path_to_device` (`src/src/dbus-objects/addrconf.c`, lines 95-131)
finds the interface an addrconf supplicant's signal is about from the signal's object path,
which must be `WICKED_DBUS_OBJECT_PATH "/" <something> "/Interface/" <index>`. It reads the path
with two `strncmp` calls and a pointer walk.

* **A C string is its characters and a NUL.** `CString` carries the fact that its characters
  hold no `'\0'`. The code reads the buffer `chars ++ ['\0']`, and a cursor is the rest of that
  buffer; a read at an empty cursor is a read past the terminating NUL, `ReadFault.pastNul`.
* **What lies outside is a parameter.** `WICKED_DBUS_OBJECT_PATH`, `ni_parse_int`,
  `ni_global_state_handle` and `ni_interface_by_index` are declared in headers that are not
  part of the sources.

`addrconfPathIndex_sound` and `addrconfPathIndex_of_eq` give the two directions of the parse,
and `pathToDevice_accepts_grammar` puts them together: the function never reads past the NUL,
and goes on to the interface lookup with index `i` exactly when the path is
`WICKED_DBUS_OBJECT_PATH ++ "/" ++ seg ++ "/Interface/" ++ rest` with no `'/'` in `seg` and
`ni_parse_int` reading `i` from `rest`.
-/

namespace Wicked

/-- A NUL-terminated string: its characters, none of them `'\0'`. -/
structure CString where
  chars : List Char
  no_nul : '\x00' ∉ chars

/-- The bytes the string occupies: its characters, then the terminating NUL. -/
def CString.buffer (s : CString) : List Char := s.chars ++ ['\x00']

/-- A read the path code could make that C leaves undefined. -/
inductive ReadFault
  /-- a read beyond the terminating NUL -/
  | pastNul
deriving DecidableEq, Repr

/-- `strncmp(p, lit, strlen(lit)) == 0` for a cursor `p`: compare character by character,
stopping at the first difference or at a NUL in both. -/
def strncmpEq : List Char → List Char → Except ReadFault Bool
  | _, [] => .ok true
  | [], _ :: _ => .error .pastNul
  | c :: p, l :: lit =>
    if c ≠ l then .ok false else if c = '\x00' then .ok true else strncmpEq p lit

/-- The segment loop `while ((cc = *path++) != '/') if (cc == '\0') return NULL;`: the cursor
after the first `'/'`, or `none` when the NUL comes first. -/
def skipSegment : List Char → Except ReadFault (Option (List Char))
  | [] => .error .pastNul
  | cc :: p => if cc = '/' then .ok (some p) else if cc = '\x00' then .ok none else skipSegment p

/-- `"Interface/"`, which the code compares with `strncmp(path, "Interface/", 10)`. -/
def interfaceSep : List Char := "Interface/".toList

/-- Lines 102-119 of `ni_objectmodel_addrconf_path_to_device(path)`: the `ifindex` the function
goes on to look up, or `none` where it returns `NULL` first. `objectPath` is
`WICKED_DBUS_OBJECT_PATH`; `niParseInt` is `ni_parse_int` on the string at the cursor, `none`
for a negative return. -/
def addrconfPathIndex (objectPath : CString) (niParseInt : List Char → Option ℕ)
    (path : CString) : Except ReadFault (Option ℕ) := do
  let p := path.buffer
  if !(← strncmpEq p objectPath.chars) then return none
  match p.drop objectPath.chars.length with
  | [] => throw .pastNul
  | c :: p =>
    if c ≠ '/' then return none
    match ← skipSegment p with
    | none => return none
    | some p =>
      if !(← strncmpEq p interfaceSep) then return none
      return niParseInt ((p.drop 10).takeWhile (· ≠ '\x00'))

/-- `ni_objectmodel_addrconf_path_to_device(path)`: the parse, then `ni_global_state_handle(1)`
(`refreshOk`: whether it returns a handle) and `ni_interface_by_index(nc, ifindex)`
(`interfaceByIndex`: the interface found, by its `ifindex`). -/
def niObjectmodelAddrconfPathToDevice (objectPath : CString) (niParseInt : List Char → Option ℕ)
    (refreshOk : Bool) (interfaceByIndex : ℕ → Option ℕ) (path : CString) :
    Except ReadFault (Option ℕ) := do
  match ← addrconfPathIndex objectPath niParseInt path with
  | none => return none
  | some ifindex => return if refreshOk then interfaceByIndex ifindex else none

/-! ### The reads on a NUL-terminated buffer -/

section Reads

variable {s : List Char}

theorem not_mem_of_not_mem_cons {a c : Char} {s : List Char} (h : a ∉ c :: s) : a ∉ s :=
  fun h' ↦ h (List.mem_cons_of_mem c h')

theorem ne_of_not_mem_cons {a c : Char} {s : List Char} (h : a ∉ c :: s) : c ≠ a :=
  fun h' ↦ h (h' ▸ List.mem_cons_self c s)

/-- On a NUL-terminated buffer, `strncmp` with a literal holding no NUL reads nothing past the
NUL and tells whether the literal is a prefix of the string. -/
theorem strncmpEq_buffer (hs : '\x00' ∉ s) {lit : List Char} (hl : '\x00' ∉ lit) :
    strncmpEq (s ++ ['\x00']) lit = .ok (decide (lit <+: s)) := by
  induction lit generalizing s with
  | nil => simp [strncmpEq]
  | cons l lit ih =>
    cases s with
    | nil => simp [strncmpEq, (ne_of_not_mem_cons hl).symm]
    | cons c s =>
      by_cases hcl : c = l
      · subst hcl
        simp [strncmpEq, ne_of_not_mem_cons hs,
          ih (not_mem_of_not_mem_cons hs) (not_mem_of_not_mem_cons hl)]
      · simp [strncmpEq, hcl, Ne.symm hcl]

/-- The segment loop stops after the first `'/'`. -/
theorem skipSegment_append {seg : List Char} (hseg : '/' ∉ seg) (hnul : '\x00' ∉ seg)
    (q : List Char) : skipSegment (seg ++ '/' :: q) = .ok (some q) := by
  induction seg with
  | nil => simp [skipSegment]
  | cons c seg ih =>
    simp [skipSegment, ne_of_not_mem_cons hseg, ne_of_not_mem_cons hnul,
      ih (not_mem_of_not_mem_cons hseg) (not_mem_of_not_mem_cons hnul)]

/-- On a NUL-terminated buffer the segment loop reads nothing past the NUL: it stops at the
NUL when there is no `'/'`, and after the first `'/'` otherwise. -/
theorem skipSegment_buffer (hs : '\x00' ∉ s) :
    ('/' ∉ s ∧ skipSegment (s ++ ['\x00']) = .ok none) ∨
      ∃ seg rest, s = seg ++ '/' :: rest ∧ '/' ∉ seg ∧
        skipSegment (s ++ ['\x00']) = .ok (some (rest ++ ['\x00'])) := by
  induction s with
  | nil => exact .inl ⟨List.not_mem_nil _, by simp [skipSegment]⟩
  | cons c s ih =>
    by_cases hc : c = '/'
    · exact .inr ⟨[], s, by simp [hc], List.not_mem_nil _, by simp [skipSegment, hc]⟩
    have hstep : skipSegment ((c :: s) ++ ['\x00']) = skipSegment (s ++ ['\x00']) := by
      simp [skipSegment, hc, ne_of_not_mem_cons hs]
    rw [hstep]
    rcases ih (not_mem_of_not_mem_cons hs) with ⟨hn, h⟩ | ⟨seg, rest, rfl, hseg, h⟩
    · exact .inl ⟨by simp [Ne.symm hc, hn], h⟩
    · exact .inr ⟨c :: seg, rest, rfl, by simp [Ne.symm hc, hseg], h⟩

theorem takeWhile_buffer (hs : '\x00' ∉ s) : (s ++ ['\x00']).takeWhile (· ≠ '\x00') = s := by
  rw [List.takeWhile_append_of_pos (fun a ha ↦ by simpa using ne_of_mem_of_not_mem ha hs)]
  simp

theorem interfaceSep_no_nul : '\x00' ∉ interfaceSep := by decide

end Reads

/-! ### The grammar -/

/-- A path of the grammar goes on to the lookup with what `ni_parse_int` reads from `rest`. -/
theorem addrconfPathIndex_of_eq (objectPath : CString) (niParseInt : List Char → Option ℕ)
    (path : CString) {seg rest : List Char}
    (hpath : path.chars = objectPath.chars ++ '/' :: seg ++ '/' :: interfaceSep ++ rest)
    (hseg : '/' ∉ seg) :
    addrconfPathIndex objectPath niParseInt path = .ok (niParseInt rest) := by
  obtain ⟨s, hs⟩ := path
  obtain ⟨P, hP⟩ := objectPath
  simp only at hpath
  subst hpath
  have hrest : '\x00' ∉ rest := fun h ↦ hs (by simp [h])
  have hseg0 : '\x00' ∉ seg := fun h ↦ hs (by simp [h])
  have hsI := strncmpEq_buffer (s := interfaceSep ++ rest) (by simp [hrest, interfaceSep_no_nul])
    interfaceSep_no_nul
  rw [List.append_assoc] at hsI
  simp only [addrconfPathIndex, CString.buffer]
  rw [strncmpEq_buffer hs hP]
  simp only [bind, Except.bind, pure, Except.pure, List.append_assoc, List.cons_append,
    List.prefix_append, decide_True, Bool.not_true, List.drop_left, skipSegment_append hseg hseg0,
    hsI]
  rw [List.drop_left' (by rfl : interfaceSep.length = 10), takeWhile_buffer hrest]
  simp

/-- The parse reads nothing past the NUL, and a path it goes on with is of the grammar. -/
theorem addrconfPathIndex_sound (objectPath : CString) (niParseInt : List Char → Option ℕ)
    (path : CString) :
    ∃ r, addrconfPathIndex objectPath niParseInt path = .ok r ∧
      ∀ i, r = some i → ∃ seg rest,
        path.chars = objectPath.chars ++ '/' :: seg ++ '/' :: interfaceSep ++ rest ∧
          '/' ∉ seg ∧ niParseInt rest = some i := by
  obtain ⟨s, hs⟩ := path
  obtain ⟨P, hP⟩ := objectPath
  simp only [addrconfPathIndex, CString.buffer]
  rw [strncmpEq_buffer hs hP]
  simp only [bind, Except.bind, pure, Except.pure]
  by_cases hpre : P <+: s
  swap
  · exact ⟨none, by simp [hpre], by simp⟩
  obtain ⟨t, rfl⟩ := hpre
  simp only [List.prefix_append, decide_True, Bool.not_true, List.append_assoc, List.drop_left]
  cases t with
  | nil => exact ⟨none, by simp, by simp⟩
  | cons c t =>
    by_cases hc : c = '/'
    swap
    · exact ⟨none, by simp [hc], by simp⟩
    subst hc
    have ht : '\x00' ∉ t := fun h ↦ hs (by simp [h])
    rcases skipSegment_buffer ht with ⟨-, h⟩ | ⟨seg, rest, rfl, hseg, h⟩
    · exact ⟨none, by simp [h], by simp⟩
    have hrest : '\x00' ∉ rest := fun h ↦ hs (by simp [h])
    simp only [List.append_assoc, List.cons_append] at h
    by_cases hI : interfaceSep <+: rest
    · obtain ⟨rest', rfl⟩ := hI
      have hrest' : '\x00' ∉ rest' := fun h ↦ hrest (by simp [h])
      refine ⟨niParseInt rest', ?_, fun i hi ↦ ⟨seg, rest', by simp, hseg, hi⟩⟩
      have hsI := strncmpEq_buffer hrest interfaceSep_no_nul
      simp only [List.append_assoc, List.cons_append] at h hsI ⊢
      simp only [h, hsI, List.prefix_append, decide_True]
      rw [List.drop_left' (by rfl : interfaceSep.length = 10), takeWhile_buffer hrest']
      simp
    · exact ⟨none, by simp [h, strncmpEq_buffer hrest interfaceSep_no_nul, hI], by simp⟩

/-- **The object-path parser accepts exactly its grammar.** For every path,
`ni_objectmodel_addrconf_path_to_device` reads nothing past the NUL; it ends in the interface
lookup at the index the parse yields, and the parse yields `i` exactly when the path is
`WICKED_DBUS_OBJECT_PATH "/" seg "/Interface/" rest`, `seg` holding no `'/'` and `ni_parse_int`
reading `i` from `rest`. -/
theorem pathToDevice_accepts_grammar (objectPath : CString) (niParseInt : List Char → Option ℕ)
    (refreshOk : Bool) (interfaceByIndex : ℕ → Option ℕ) (path : CString) :
    ∃ r, addrconfPathIndex objectPath niParseInt path = .ok r ∧
      niObjectmodelAddrconfPathToDevice objectPath niParseInt refreshOk interfaceByIndex path =
        .ok (r.bind fun i ↦ if refreshOk then interfaceByIndex i else none) ∧
      ∀ i, r = some i ↔ ∃ seg rest,
        path.chars = objectPath.chars ++ '/' :: seg ++ '/' :: interfaceSep ++ rest ∧
          '/' ∉ seg ∧ niParseInt rest = some i := by
  obtain ⟨r, hr, hsound⟩ := addrconfPathIndex_sound objectPath niParseInt path
  refine ⟨r, hr, ?_, fun i ↦ ⟨hsound i, ?_⟩⟩
  · cases r <;> simp [niObjectmodelAddrconfPathToDevice, hr, bind, Except.bind, pure, Except.pure]
  · rintro ⟨seg, rest, hpath, hseg, hi⟩
    have := addrconfPathIndex_of_eq objectPath niParseInt path hpath hseg
    rw [hr, hi] at this
    exact Except.ok.inj this

end Wicked
