import Mathlib.Data.List.DropRight

/-! # Scanners

A scanner reads a text from left to right, changes its mode with each character and cuts the
text at some of them. -/

namespace RustyCore

/-- The mode at the start, the mode after a character, which may depend on the text behind it,
and whether the text is cut there. -/
structure Scanner (μ α : Type*) where
  start : μ
  next : μ → α → List α → μ
  cuts : μ → α → Bool

namespace Scanner

variable {μ ν α : Type*}

/-- For each character of the text, whether the text is cut there. -/
def cutsFrom (scanner : Scanner μ α) : μ → List α → List Bool
  | _, [] => []
  | mode, c :: rest => scanner.cuts mode c :: scanner.cutsFrom (scanner.next mode c rest) rest

/-- The pieces between the cuts, where `piece` has been read since the last one. -/
def piecesFrom (scanner : Scanner μ α) : μ → List α → List α → List (List α)
  | _, piece, [] => [piece]
  | mode, piece, c :: rest =>
    if scanner.cuts mode c then piece :: scanner.piecesFrom (scanner.next mode c rest) [] rest
    else scanner.piecesFrom (scanner.next mode c rest) (piece ++ [c]) rest

/-- The characters at which the text is not cut. -/
def uncutFrom (scanner : Scanner μ α) : μ → List α → List α
  | _, [] => []
  | mode, c :: rest =>
    if scanner.cuts mode c then scanner.uncutFrom (scanner.next mode c rest) rest
    else c :: scanner.uncutFrom (scanner.next mode c rest) rest

theorem flatten_piecesFrom (scanner : Scanner μ α) (mode : μ) (piece text : List α) :
    (scanner.piecesFrom mode piece text).flatten = piece ++ scanner.uncutFrom mode text := by
  induction text generalizing mode piece with
  | nil => simp [piecesFrom, uncutFrom]
  | cons c rest ih =>
    cases hcut : scanner.cuts mode c with
    | true => simp [piecesFrom, uncutFrom, hcut, ih]
    | false => simp [piecesFrom, uncutFrom, hcut, ih]

/-- What has been read since the last cut begins the first piece. -/
theorem piecesFrom_head (scanner : Scanner μ α) (mode : μ) (piece text : List α) :
    ∃ more pieces, scanner.piecesFrom mode piece text = (piece ++ more) :: pieces := by
  induction text generalizing mode piece with
  | nil => exact ⟨[], [], by simp [piecesFrom]⟩
  | cons c rest ih =>
    cases hcut : scanner.cuts mode c with
    | true =>
      refine ⟨[], scanner.piecesFrom (scanner.next mode c rest) [] rest, ?_⟩
      simp [piecesFrom, hcut]
    | false =>
      obtain ⟨more, pieces, hpieces⟩ := ih (scanner.next mode c rest) (piece ++ [c])
      exact ⟨c :: more, pieces, by simp [piecesFrom, hcut, hpieces]⟩

/-- Scanners that cut at the same places make the same pieces. -/
theorem piecesFrom_congr {scanner : Scanner μ α} {scanner' : Scanner ν α} {mode : μ} {mode' : ν}
    {text : List α} (h : scanner.cutsFrom mode text = scanner'.cutsFrom mode' text)
    (piece : List α) :
    scanner.piecesFrom mode piece text = scanner'.piecesFrom mode' piece text := by
  induction text generalizing mode mode' piece with
  | nil => rfl
  | cons c rest ih =>
    obtain ⟨hcut, hrest⟩ := List.cons.inj h
    simp only [piecesFrom, hcut, ih hrest]

/-! ## Trimmed pieces -/

variable (space : α → Bool)

def trim (text : List α) : List α := (text.dropWhile space).rdropWhile space

/-- The pieces without the space around them, less those that are nothing but space. -/
def solid (pieces : List (List α)) : List (List α) :=
  (pieces.map (trim space)).filter fun piece => !piece.isEmpty

theorem filter_dropWhile (text : List α) :
    (text.dropWhile space).filter (fun c => !space c) = text.filter fun c => !space c := by
  induction text with
  | nil => rfl
  | cons c rest ih =>
    cases hc : space c with
    | true => simpa [hc] using ih
    | false => simp [hc]

theorem filter_trim (text : List α) :
    (trim space text).filter (fun c => !space c) = text.filter fun c => !space c := by
  rw [trim, List.rdropWhile, List.filter_reverse, filter_dropWhile, List.filter_reverse,
    List.reverse_reverse, filter_dropWhile]

theorem trim_eq_nil_iff {text : List α} : trim space text = [] ↔ ∀ c ∈ text, space c = true := by
  constructor
  · intro hnil c hc
    have hfilter := filter_trim space text
    rw [hnil] at hfilter
    have hnone := List.filter_eq_nil_iff.mp hfilter.symm c hc
    simpa using hnone
  · intro hall
    rw [trim, List.dropWhile_eq_nil_iff.mpr hall]
    rfl

theorem filter_flatten_solid (pieces : List (List α)) :
    (solid space pieces).flatten.filter (fun c => !space c) =
      pieces.flatten.filter fun c => !space c := by
  induction pieces with
  | nil => rfl
  | cons piece pieces ih =>
    have hpiece := filter_trim space piece
    cases hempty : (trim space piece).isEmpty with
    | true =>
      rw [List.isEmpty_iff.mp hempty] at hpiece
      simpa [solid, hempty, ← hpiece] using ih
    | false =>
      simp only [solid, List.map_cons, List.filter_cons, hempty, Bool.not_false, if_true,
        List.flatten_cons, List.filter_append, hpiece]
      exact congrArg _ ih

theorem solid_cons_of_blank {piece : List α} (h : trim space piece = []) (pieces : List (List α)) :
    solid space (piece :: pieces) = solid space pieces := by
  simp [solid, h]

theorem solid_cons_of_ne {piece : List α} (h : trim space piece ≠ []) (pieces : List (List α)) :
    solid space (piece :: pieces) = trim space piece :: solid space pieces := by
  simp [solid, h]

theorem count_trim [DecidableEq α] {sep : α} (hsep : space sep = false) (text : List α) :
    (trim space text).count sep = text.count sep := by
  have hfilter (l : List α) : (l.filter fun c => !space c).count sep = l.count sep :=
    List.count_filter (by simp [hsep])
  rw [← hfilter, filter_trim, hfilter]

/-! ## Scanners that cut at a separator -/

/-- The scanner cuts at `sep` where it is in its start mode, at least, which it is in after each
cut and which space does not change. -/
structure Separates (scanner : Scanner μ α) (sep : α) : Prop where
  eq_sep : ∀ {mode c}, scanner.cuts mode c = true → c = sep
  cuts_start : scanner.cuts scanner.start sep = true
  next_cut : ∀ {mode c} (rest), scanner.cuts mode c = true →
    scanner.next mode c rest = scanner.start
  next_space : ∀ {c} (rest), space c = true → scanner.next scanner.start c rest = scanner.start

variable {space} in
/-- Where one scanner cuts and the other does not, the first makes a statement that ends before
a separator which the other keeps. -/
theorem solid_ne_of_cut [DecidableEq α] {sep : α} (hsep : space sep = false)
    {scanner : Scanner ν α} (mode : ν) {piece rest : List α} (pieces : List (List α))
    (hpiece : trim space piece ≠ []) :
    solid space (piece :: pieces) ≠
      solid space (scanner.piecesFrom mode (piece ++ [sep]) rest) := by
  obtain ⟨more, pieces', hpieces'⟩ := scanner.piecesFrom_head mode (piece ++ [sep]) rest
  have hlonger : (trim space (piece ++ [sep] ++ more)).count sep =
      piece.count sep + 1 + more.count sep := by
    rw [count_trim space hsep]
    simp only [List.count_append, List.count_singleton_self]
  have hne : trim space (piece ++ [sep] ++ more) ≠ [] := by
    intro hnil
    rw [hnil, List.count_nil] at hlonger
    omega
  rw [hpieces', solid_cons_of_ne space hpiece, solid_cons_of_ne space hne]
  intro heq
  have hcount := congrArg (List.count sep) (List.cons.inj heq).1
  rw [hlonger, count_trim space hsep] at hcount
  omega

variable {space} in
/-- Two scanners that make the same statements cut at the same places. -/
theorem cutsFrom_eq_of_solid_eq [DecidableEq α] {sep : α} (hsep : space sep = false)
    {scanner : Scanner μ α} {scanner' : Scanner ν α} (h : scanner.Separates space sep)
    (h' : scanner'.Separates space sep) {mode : μ} {mode' : ν} {piece text : List α}
    (hblank : trim space piece = [] → mode = scanner.start ∧ mode' = scanner'.start)
    (hsolid : solid space (scanner.piecesFrom mode piece text) =
      solid space (scanner'.piecesFrom mode' piece text)) :
    scanner.cutsFrom mode text = scanner'.cutsFrom mode' text := by
  induction text generalizing mode mode' piece with
  | nil => rfl
  | cons c rest ih =>
    simp only [piecesFrom] at hsolid
    have hsolid_piece {c'} (hcuts : scanner.cuts mode c' ≠ scanner'.cuts mode' c')
        (hc' : c' = sep) : trim space piece ≠ [] := by
      intro hnil
      obtain ⟨hmode, hmode'⟩ := hblank hnil
      rw [hmode, hmode', hc', h.cuts_start, h'.cuts_start] at hcuts
      exact hcuts rfl
    cases hcut : scanner.cuts mode c with
    | true =>
      obtain rfl := h.eq_sep hcut
      cases hcut' : scanner'.cuts mode' c with
      | true =>
        rw [cutsFrom, cutsFrom, hcut, hcut', h.next_cut rest hcut, h'.next_cut rest hcut']
        rw [if_pos hcut, if_pos hcut', h.next_cut rest hcut, h'.next_cut rest hcut'] at hsolid
        refine congrArg _ (@ih scanner.start scanner'.start [] (fun _ => ⟨rfl, rfl⟩) ?_)
        by_cases hpiece : trim space piece = []
        · simpa only [solid_cons_of_blank space hpiece] using hsolid
        · rw [solid_cons_of_ne space hpiece, solid_cons_of_ne space hpiece] at hsolid
          exact (List.cons.inj hsolid).2
      | false =>
        rw [if_pos hcut, if_neg (by simp [hcut'])] at hsolid
        have hpiece := hsolid_piece (by simp [hcut, hcut']) rfl
        exact absurd hsolid (solid_ne_of_cut hsep _ _ hpiece)
    | false =>
      cases hcut' : scanner'.cuts mode' c with
      | true =>
        obtain rfl := h'.eq_sep hcut'
        rw [if_neg (by simp [hcut]), if_pos hcut'] at hsolid
        have hpiece := hsolid_piece (by simp [hcut, hcut']) rfl
        exact absurd hsolid.symm (solid_ne_of_cut hsep _ _ hpiece)
      | false =>
        rw [if_neg (by simp [hcut]), if_neg (by simp [hcut'])] at hsolid
        rw [cutsFrom, cutsFrom, hcut, hcut']
        refine congrArg _ (ih ?_ hsolid)
        intro hnil
        have hall := (trim_eq_nil_iff space).mp hnil
        have hspace : space c = true := hall c (by simp)
        have hpiece : trim space piece = [] :=
          (trim_eq_nil_iff space).mpr fun c' hc' => hall c' (by simp [hc'])
        obtain ⟨rfl, rfl⟩ := hblank hpiece
        exact ⟨h.next_space rest hspace, h'.next_space rest hspace⟩

end Scanner

end RustyCore
