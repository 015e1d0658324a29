import ShellBridge.Path

/-!
The whitelist of element paths.  While it is disabled every path passes; while it is enabled a path
passes if its normal form is listed.
-/

namespace ShellBridge

/-- Puts a text at its place in an ascending list, unless it is there. -/
def insertText (s : String) : List String → List String
  | [] => [s]
  | t :: rest =>
      if s = t then t :: rest
      else if s < t then s :: t :: rest
      else t :: insertText s rest

@[simp] theorem mem_insertText {s t : String} {ts : List String} :
    t ∈ insertText s ts ↔ t = s ∨ t ∈ ts := by
  induction ts with
  | nil => simp [insertText]
  | cons first rest inductionHypothesis =>
      unfold insertText
      split
      next same =>
        subst same
        simp
      next =>
        split
        next => simp
        next =>
          rw [List.mem_cons, inductionHypothesis, List.mem_cons]
          exact or_left_comm

theorem insertText_ascending {s : String} {ts : List String} (ascending : ts.Pairwise (· < ·)) :
    (insertText s ts).Pairwise (· < ·) := by
  induction ts with
  | nil => simp [insertText]
  | cons first rest inductionHypothesis =>
      obtain ⟨below, ascendingRest⟩ := List.pairwise_cons.mp ascending
      unfold insertText
      split
      next => exact ascending
      next different =>
        split
        next less =>
          refine List.pairwise_cons.mpr ⟨fun other membership => ?_, ascending⟩
          rcases List.mem_cons.mp membership with rfl | behind
          · exact less
          · exact String.lt_trans less (below other behind)
        next notLess =>
          refine List.pairwise_cons.mpr
            ⟨fun other membership => ?_, inductionHypothesis ascendingRest⟩
          rcases mem_insertText.mp membership with rfl | behind
          · exact Std.lt_of_le_of_ne (String.not_lt.mp notLess) fun same => different same.symm
          · exact below other behind

/-- A set of texts, listed in ascending order. -/
structure TextSet where
  toList : List String
  ascending : toList.Pairwise (· < ·)
  deriving DecidableEq

namespace TextSet

def empty : TextSet := ⟨[], .nil⟩

instance : Inhabited TextSet := ⟨empty⟩

def insert (set : TextSet) (s : String) : TextSet :=
  ⟨insertText s set.toList, insertText_ascending set.ascending⟩

def ofList (texts : List String) : TextSet :=
  texts.foldl insert empty

@[simp] theorem toList_empty : empty.toList = [] := rfl

@[simp] theorem mem_toList_insert {set : TextSet} {s t : String} :
    t ∈ (set.insert s).toList ↔ t = s ∨ t ∈ set.toList :=
  mem_insertText

theorem mem_toList_foldl_insert {texts : List String} {set : TextSet} {t : String} :
    t ∈ (texts.foldl insert set).toList ↔ t ∈ set.toList ∨ t ∈ texts := by
  induction texts generalizing set with
  | nil => simp
  | cons first rest inductionHypothesis =>
      rw [List.foldl_cons, inductionHypothesis, mem_toList_insert, List.mem_cons, or_assoc]
      exact or_left_comm

@[simp] theorem mem_toList_ofList {texts : List String} {t : String} :
    t ∈ (ofList texts).toList ↔ t ∈ texts := by
  simp [ofList, mem_toList_foldl_insert]

end TextSet

structure Filter where
  enabled : Bool
  allowed : TextSet
  deriving DecidableEq

namespace Filter

/-- The filter that everything passes, with nothing listed. -/
def disabled : Filter := ⟨false, .empty⟩

instance : Inhabited Filter := ⟨disabled⟩

/-- Lists the given paths and no others. -/
def setWhitelist (filter : Filter) (paths : List String) : Filter :=
  { filter with allowed := .ofList (paths.map Path.normalize) }

def addPath (filter : Filter) (path : String) : Filter :=
  { filter with allowed := filter.allowed.insert (Path.normalize path) }

def enable (filter : Filter) : Filter :=
  { filter with enabled := true }

def disable (filter : Filter) : Filter :=
  { filter with enabled := false }

def passes (filter : Filter) (path : String) : Bool :=
  !filter.enabled || filter.allowed.toList.contains (Path.normalize path)

/-- The listed paths, in ascending order. -/
def whitelist (filter : Filter) : List String :=
  filter.allowed.toList

end Filter

end ShellBridge
