/-! Cutting a text at a separator: once, or at every place where it stands; and lines. -/

set_option autoImplicit false

namespace PagedMemory.Text

def cut (c : Char) : List Char → List Char × Option (List Char)
  | [] => ([], none)
  | d :: ds => if d = c then ([], some ds) else (d :: (cut c ds).1, (cut c ds).2)

theorem cut_append (c : Char) (p rest : List Char) (h : c ∉ p) :
    cut c (p ++ c :: rest) = (p, some rest) := by
  induction p with
  | nil => simp [cut]
  | cons d ds ih =>
    have hd : d ≠ c := fun e => h (by simp [e])
    have hs : c ∉ ds := fun m => h (by simp [m])
    simp [cut, hd, ih hs]

theorem cut_of_not_mem (c : Char) (p : List Char) (h : c ∉ p) : cut c p = (p, none) := by
  induction p with
  | nil => rfl
  | cons d ds ih =>
    have hd : d ≠ c := fun e => h (by simp [e])
    have hs : c ∉ ds := fun m => h (by simp [m])
    simp [cut, hd, ih hs]

def extendFirst (d : Char) : List (List Char) → List (List Char)
  | [] => [[d]]
  | p :: ps => (d :: p) :: ps

/-- The pieces between the separators, empty ones included; there is always at least one. -/
def pieces (c : Char) : List Char → List (List Char)
  | [] => [[]]
  | d :: ds => if d = c then [] :: pieces c ds else extendFirst d (pieces c ds)

def joined (c : Char) : List (List Char) → List Char
  | [] => []
  | [p] => p
  | p :: q :: ps => p ++ c :: joined c (q :: ps)

theorem pieces_of_not_mem (c : Char) (p : List Char) (h : c ∉ p) : pieces c p = [p] := by
  induction p with
  | nil => rfl
  | cons d ds ih =>
    have hd : d ≠ c := fun e => h (by simp [e])
    have hs : c ∉ ds := fun m => h (by simp [m])
    simp [pieces, hd, ih hs, extendFirst]

theorem pieces_append (c : Char) (p rest : List Char) (h : c ∉ p) :
    pieces c (p ++ c :: rest) = p :: pieces c rest := by
  induction p with
  | nil => simp [pieces]
  | cons d ds ih =>
    have hd : d ≠ c := fun e => h (by simp [e])
    have hs : c ∉ ds := fun m => h (by simp [m])
    simp [pieces, hd, ih hs, extendFirst]

theorem pieces_joined (c : Char) (ps : List (List Char)) (hne : ps ≠ []) (h : ∀ p ∈ ps, c ∉ p) :
    pieces c (joined c ps) = ps := by
  induction ps with
  | nil => exact absurd rfl hne
  | cons p ps ih =>
    cases ps with
    | nil => exact pieces_of_not_mem c p (h p (by simp))
    | cons q qs =>
      rw [joined, pieces_append c p _ (h p (by simp)), ih (by simp) (fun r hr => h r (by simp_all))]

def withoutReturn (line : List Char) : List Char :=
  if line.getLast? = some '\r' then line.dropLast else line

/-- The lines of a text with a line break after it. A line break is a line feed, with or
without a carriage return just before it. -/
def lines (cs : List Char) : List (List Char) := (pieces '\n' cs).map withoutReturn

end PagedMemory.Text
