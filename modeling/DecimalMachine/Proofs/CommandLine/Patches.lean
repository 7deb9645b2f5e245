import DecimalMachine.CommandLine.Commands
import Mathlib.Data.List.Forall2

/-!
# Patches

Before a program is run its cells are patched. A patch is an address and a value, read from the text of
an option; of several patches of one cell the last counts. What can go wrong goes wrong in a fixed
order: all patches are read before the program is, and the program before any address is looked at.
-/

namespace DecimalMachine.CommandLine

/-- The patches read from the texts of options. -/
def Patches (pokes : List String) (patches : List (Int × Int)) : Prop :=
  List.Forall₂ (fun p patch ↦ readPatch p = .ok patch) pokes patches

/-- The cells after patches, each of which overwrites the cell at its address. -/
def patched (cells : List Int) (patches : List (Int × Int)) : List Int :=
  patches.foldl (fun cs p ↦ cs.set p.1.toNat p.2) cells

/-- Why a program is not run: a patch cannot be read, or else the program, or else a patch has an address
outside of it. Of several patches the first is told. -/
inductive Refuses (content : String) (pokes : List String) : Failure → Prop where
  | patch {p : String} {e : ValueFault}
      (first : pokes.find? (fun p ↦ !(readPatch p).isOk) = some p) (failed : readPatch p = .error e) :
      Refuses content pokes (.value e)
  | program {patches : List (Int × Int)} {f : Fault} (read : Patches pokes patches)
      (failed : Program.parse (Program.filter content) = .error f) :
      Refuses content pokes (.machine f)
  | address {patches : List (Int × Int)} {cells : List Int} {p : Int × Int}
      (read : Patches pokes patches) (parsed : Program.parse (Program.filter content) = .ok cells)
      (first : patches.find? (fun p ↦ !(Memory.ofList cells).contains p.1) = some p) :
      Refuses content pokes (.machine (.outOfBounds p.1 cells.length))

/-- What is run: the cells of the program, patched. -/
structure Prepares (content : String) (pokes : List String) (cells : List Int)
    (patches : List (Int × Int)) : Prop where
  read : Patches pokes patches
  parsed : Program.parse (Program.filter content) = .ok cells
  inside : ∀ p ∈ patches, 0 ≤ p.1 ∧ p.1 < cells.length

/-- A program is not fit to run if its text cannot be read, or a patch cannot, or a patch is meant for an
address outside of it. -/
def Unfit (content : String) (pokes : List String) : Prop :=
  (∃ f, Program.parse (Program.filter content) = .error f) ∨
    (∃ p ∈ pokes, ∃ e, readPatch p = .error e) ∨
      ∃ cells, Program.parse (Program.filter content) = .ok cells ∧
        ∃ p ∈ pokes, ∃ a v, readPatch p = .ok (a, v) ∧ ¬(0 ≤ a ∧ a < cells.length)

/-! ### Failures in a list -/

section

variable {α β ε : Type} {f : α → Except ε β}

/-- All elements are mapped if none of them fails. -/
theorem mapM_eq_ok_iff {xs : List α} {ys : List β} :
    xs.mapM f = .ok ys ↔ List.Forall₂ (fun x y ↦ f x = .ok y) xs ys := by
  induction xs generalizing ys with
  | nil => simp [pure, Except.pure, eq_comm]
  | cons x xs ih =>
    rw [List.mapM_cons, List.forall₂_cons_left_iff]
    cases here : f x with
    | error e => simp [bind, Except.bind]
    | ok y =>
      simp only [← ih, bind, Except.bind, pure, Except.pure]
      cases rest : xs.mapM f with
      | error e => simp
      | ok zs => simp [eq_comm]

private theorem mapM_eq_error_iff {xs : List α} {e : ε} :
    xs.mapM f = .error e ↔ ∃ x, xs.find? (fun x ↦ !(f x).isOk) = some x ∧ f x = .error e := by
  induction xs with
  | nil => simp [pure, Except.pure]
  | cons x xs ih =>
    rw [List.mapM_cons]
    cases here : f x with
    | error g =>
      rw [List.find?_cons_of_pos (by simp [here, Except.isOk, Except.toBool])]
      simp [bind, Except.bind, here]
    | ok y =>
      rw [List.find?_cons_of_neg (by simp [here, Except.isOk, Except.toBool]), ← ih]
      cases rest : xs.mapM f with
      | error g => simp [bind, Except.bind]
      | ok zs => simp [bind, Except.bind, pure, Except.pure]

end

/-! ### Reading patches -/

variable {content : String} {pokes : List String}

/-- Patches are read from the texts that are given. -/
theorem mapM_patchOf_iff {patches : List (Int × Int)} :
    (pokes.map some).mapM RunRequest.patchOf = .ok patches ↔ Patches pokes patches := by
  have read (p : String) (patch : Int × Int) :
      RunRequest.patchOf (some p) = .ok patch ↔ readPatch p = .ok patch := by
    rw [RunRequest.patchOf]
    cases readPatch p with
    | error e => exact ⟨nofun, nofun⟩
    | ok q => exact ⟨fun h ↦ by cases h; rfl, fun h ↦ by cases h; rfl⟩
  rw [mapM_eq_ok_iff, List.forall₂_map_left_iff]
  simp only [read, Patches]

/-- The first text that is no patch is told. -/
theorem mapM_patchOf_of_failed {p : String} {e : ValueFault}
    (first : pokes.find? (fun p ↦ !(readPatch p).isOk) = some p) (failed : readPatch p = .error e) :
    (pokes.map some).mapM RunRequest.patchOf = .error (.value e) := by
  have fails (p : String) : (RunRequest.patchOf (some p)).isOk = (readPatch p).isOk := by
    rw [RunRequest.patchOf]
    cases readPatch p with
    | error e => rfl
    | ok q => rfl
  refine mapM_eq_error_iff.mpr ⟨some p, ?_, ?_⟩
  · rw [List.find?_map, Option.map_eq_some_iff]
    refine ⟨p, ?_, rfl⟩
    rw [← first]
    congr 1
    funext q
    simp only [Function.comp, fails]
  · rw [RunRequest.patchOf, failed]
    rfl

private theorem Patches.of_mem {patches : List (Int × Int)} {p : String}
    (read : Patches pokes patches)
    (h : p ∈ pokes) : ∃ q ∈ patches, readPatch p = .ok q := by
  induction read with
  | nil => cases h
  | cons first _ ih =>
    rcases List.mem_cons.mp h with rfl | h
    · exact ⟨_, List.mem_cons_self, first⟩
    · obtain ⟨q, hq, same⟩ := ih h
      exact ⟨q, List.mem_cons_of_mem _ hq, same⟩

private theorem Patches.exists_text {patches : List (Int × Int)} {q : Int × Int}
    (read : Patches pokes patches) (h : q ∈ patches) : ∃ p ∈ pokes, readPatch p = .ok q := by
  induction read with
  | nil => cases h
  | cons first _ ih =>
    rcases List.mem_cons.mp h with rfl | h
    · exact ⟨_, List.mem_cons_self, first⟩
    · obtain ⟨p, hp, same⟩ := ih h
      exact ⟨p, List.mem_cons_of_mem _ hp, same⟩

/-! ### Making patches -/

/-- A cell holds what the last patch of its address says, or what it held if there is none. -/
theorem getElem?_patched {cells : List Int} {patches : List (Int × Int)}
    (inside : ∀ p ∈ patches, 0 ≤ p.1 ∧ p.1 < cells.length) {a : Nat} (there : a < cells.length) :
    (patched cells patches)[a]? = (patches.reverse.lookup (a : Int)).or cells[a]? := by
  induction patches generalizing cells with
  | nil => rfl
  | cons p ps ih =>
    obtain ⟨k, v⟩ := p
    obtain ⟨nonneg, below⟩ := inside (k, v) List.mem_cons_self
    have later : ∀ q ∈ ps, 0 ≤ q.1 ∧ q.1 < (cells.set k.toNat v).length := by
      intro q hq
      rw [List.length_set]
      exact inside q (List.mem_cons_of_mem _ hq)
    have here : (cells.set k.toNat v)[a]? = ([(k, v)].lookup (a : Int)).or cells[a]? := by
      rw [List.lookup_singleton]
      by_cases same : (a : Int) = k
      · have place : k.toNat = a := by omega
        rw [if_pos (beq_iff_eq.mpr same), place, List.getElem?_set_self there]
        rfl
      · have apart : k.toNat ≠ a := by omega
        rw [if_neg (by simpa using same), List.getElem?_set_ne apart]
        rfl
    rw [patched, List.foldl_cons, ← patched, ih later (by rwa [List.length_set]), here,
      List.reverse_cons, List.lookup_append, Option.or_assoc]

private theorem poke_ofCells {cells : List Int} {a : Int} (inputs : List Int) (tracing : Bool)
    (v : Int)
    (inside : (Memory.ofList cells).contains a = true) :
    (Machine.ofCells cells inputs tracing).poke a v =
      .ok (Machine.ofCells (cells.set a.toNat v) inputs tracing) := by
  have overwritten : (Memory.ofList cells).set a v = Memory.ofList (cells.set a.toNat v) := by
    apply Memory.ext_toList
    rw [Memory.toList_set v (Memory.contains_iff.mp inside).1, Memory.toList_ofList,
      Memory.toList_ofList]
  have written : (Machine.ofCells cells inputs tracing).memory.write a v =
      .ok (Memory.ofList (cells.set a.toNat v)) :=
    Memory.write_eq_ok_iff.mpr ⟨inside, overwritten.symm⟩
  rw [Machine.poke, written]
  rfl

/-- Several patches are made in order, up to the first whose address is outside. -/
theorem foldlM_poke (cells inputs : List Int) (tracing : Bool) (patches : List (Int × Int)) :
    patches.foldlM (fun (m : Machine) p ↦ m.poke p.1 p.2) (Machine.ofCells cells inputs tracing) =
      match patches.find? fun p ↦ !(Memory.ofList cells).contains p.1 with
      | none => .ok (Machine.ofCells (patched cells patches) inputs tracing)
      | some p => .error (.outOfBounds p.1 cells.length) := by
  induction patches generalizing cells with
  | nil => rfl
  | cons p ps ih =>
    rw [List.foldlM_cons]
    cases inside : (Memory.ofList cells).contains p.1 with
    | false =>
      rw [List.find?_cons_of_pos (by simp [inside])]
      have missing : (Machine.ofCells cells inputs tracing).poke p.1 p.2 =
          .error (.outOfBounds p.1 cells.length) := by
        simp [Machine.poke, Machine.ofCells, Memory.write, inside, Memory.outside, Except.map]
      rw [missing]
      rfl
    | true =>
      rw [List.find?_cons_of_neg (by simp [inside]), poke_ofCells inputs tracing p.2 inside]
      -- What is inside stays so, as a patch changes no number of cells.
      have same (a : Int) : (Memory.ofList (cells.set p.1.toNat p.2)).contains a =
          (Memory.ofList cells).contains a := by
        simp [Memory.contains]
      have later := ih (cells.set p.1.toNat p.2)
      simp only [same, List.length_set] at later
      exact later

/-! ### Fit or not -/

/-- A program is refused or can be run. -/
theorem refuses_or_prepares (content : String) (pokes : List String) :
    (∃ f, Refuses content pokes f) ∨ ∃ cells patches, Prepares content pokes cells patches := by
  cases read : pokes.mapM readPatch with
  | error e =>
    obtain ⟨p, first, failed⟩ := mapM_eq_error_iff.mp read
    exact .inl ⟨_, .patch first failed⟩
  | ok patches =>
    have read : Patches pokes patches := mapM_eq_ok_iff.mp read
    cases parsed : Program.parse (Program.filter content) with
    | error f => exact .inl ⟨_, .program read parsed⟩
    | ok cells =>
      cases first : patches.find? fun p ↦ !(Memory.ofList cells).contains p.1 with
      | some p => exact .inl ⟨_, .address read parsed first⟩
      | none =>
        refine .inr ⟨cells, patches, read, parsed, ?_⟩
        intro p hp
        have inside := List.find?_eq_none.mp first p hp
        rwa [Bool.not_eq_true, Bool.not_eq_false', Memory.contains_iff, Memory.size_ofList] at inside

/-- A program that can be run is fit for it. -/
theorem Prepares.fit {cells : List Int} {patches : List (Int × Int)}
    (prepares : Prepares content pokes cells patches) : ¬Unfit content pokes := by
  rintro (⟨f, failed⟩ | ⟨p, hp, e, failed⟩ | ⟨others, parsed, p, hp, a, v, read, outside⟩)
  · cases failed.symm.trans prepares.parsed
  · obtain ⟨q, -, read⟩ := prepares.read.of_mem hp
    cases failed.symm.trans read
  · obtain ⟨q, hq, again⟩ := prepares.read.of_mem hp
    obtain rfl := Except.ok.inj (parsed.symm.trans prepares.parsed)
    obtain rfl := Except.ok.inj (read.symm.trans again)
    exact outside (prepares.inside _ hq)

/-- A program that is refused is not fit. -/
theorem Refuses.unfit {f : Failure} (refuses : Refuses content pokes f) : Unfit content pokes := by
  cases refuses with
  | patch first failed => exact .inr (.inl ⟨_, List.mem_of_find?_eq_some first, _, failed⟩)
  | program _ failed => exact .inl ⟨_, failed⟩
  | @address patches cells q read parsed first =>
    obtain ⟨p, hp, same⟩ := read.exists_text (List.mem_of_find?_eq_some first)
    have outside := List.find?_some first
    refine .inr (.inr ⟨cells, parsed, p, hp, q.1, q.2, same, ?_⟩)
    rwa [Bool.not_eq_true', ← Bool.not_eq_true, Memory.contains_iff, Memory.size_ofList] at outside

end DecimalMachine.CommandLine
