/-
The canonical form by a loop that rewrites texts, `removeDotSegments`. On a text with single slashes, a slash in front
and all dot segments plain, which is what `prepare` makes of a path, the loop moves segments from its input to its
output, and takes the last one back at two dots. What it leaves is the canonical form, but for one slash at the end.
-/
import Gatehouse.Proofs.Route.Canonical
import Gatehouse.Proofs.Text.Plain

namespace Gatehouse.Route

open Gatehouse.Text

/-! ## The text before the loop -/

/-- Every backslash made a slash. -/
def forwardSlashes (cs : List Char) : List Char := cs.map fun c => if c = '\\' then '/' else c

/-- Every run of slashes made one. -/
def collapse : List Char → List Char
  | [] => []
  | c :: cs => if c = '/' ∧ cs.head? = some '/' then collapse cs else c :: collapse cs

/-- A slash put in front, if there is none. -/
def fromRoot (cs : List Char) : List Char := if cs.head? = some '/' then cs else '/' :: cs

/-- One dot or two for a segment that spells them, and any other segment as it is. -/
def plainDots (segment : List Char) : List Char :=
  if dotSpellings.contains segment then ".".toList
  else if dotDotSpellings.contains segment then "..".toList
  else segment

/-- A path as the loop takes it. -/
def prepare (path : List Char) : List Char :=
  List.intercalate ['/'] (((fromRoot (collapse (forwardSlashes path))).splitOn '/').map plainDots)

/-! ## The loop -/

/-- The output without its last segment and the slash in front of that. -/
def dropSegment (output : List Char) : List Char := ((output.reverse.dropWhile (· != '/')).drop 1).reverse

/-- One round of the loop: the input and the output after it. -/
def remove : List Char → List Char → List Char × List Char
  -- rule A: dots in front of everything
  | '.' :: '.' :: '/' :: rest, output => (rest, output)
  | '.' :: '/' :: rest, output => (rest, output)
  -- rule B: a segment of one dot
  | '/' :: '.' :: '/' :: rest, output => ('/' :: rest, output)
  | ['/', '.'], output => (['/'], output)
  -- rule C: a segment of two dots
  | '/' :: '.' :: '.' :: '/' :: rest, output => ('/' :: rest, dropSegment output)
  | ['/', '.', '.'], output => (['/'], dropSegment output)
  -- rule D: dots and nothing else
  | ['.'], output => ([], output)
  | ['.', '.'], output => ([], output)
  -- rule E: the first segment, with the slash in front of it
  | c :: cs, output => (cs.dropWhile (· != '/'), output ++ c :: cs.takeWhile (· != '/'))
  | [], output => ([], output)

/-- Every round takes something off the input. -/
theorem length_remove_lt {input : List Char} (h : input ≠ []) (output : List Char) :
    (remove input output).1.length < input.length := by
  unfold remove
  split
  case h_9 c cs _ _ _ _ _ _ _ _ => exact Nat.lt_succ_of_le (List.dropWhile_suffix _).length_le
  case h_10 => exact absurd rfl h
  all_goals
    simp only [List.length_cons, List.length_nil]
    omega

/-- The rounds until nothing is left of the input. -/
def removeDotSegments (input output : List Char) : List Char :=
  match input with
  | [] => output
  | c :: cs => removeDotSegments (remove (c :: cs) output).1 (remove (c :: cs) output).2
termination_by input.length
decreasing_by exact length_remove_lt (List.cons_ne_nil c cs) output

/-- A path without a slash at its end, unless it is the root. -/
def trimSlash (path : List Char) : List Char :=
  if path ≠ ['/'] ∧ path.getLast? = some '/' then path.dropLast else path

/-! ## Segments of the text before the loop -/

/-- Segments without the empty ones, of which only the last may stay. -/
def squeeze : List (List Char) → List (List Char)
  | [] => []
  | [s] => [s]
  | s :: t :: ss => if s = [] then squeeze (t :: ss) else s :: squeeze (t :: ss)

theorem squeeze_nil_cons {ss : List (List Char)} (h : ss ≠ []) : squeeze ([] :: ss) = squeeze ss := by
  cases ss with
  | nil => exact absurd rfl h
  | cons t ss => rw [squeeze, if_pos rfl]

theorem squeeze_cons {s : List Char} {ss : List (List Char)} (h : s ≠ [] ∨ ss = []) :
    squeeze (s :: ss) = s :: squeeze ss := by
  cases ss with
  | nil => rfl
  | cons t ss => rw [squeeze, if_neg (h.resolve_right (List.cons_ne_nil _ _))]

theorem splitOn_slash_cons (cs : List Char) : ('/' :: cs).splitOn '/' = [] :: cs.splitOn '/' := by
  rw [List.splitOn_cons_eq_if_modifyHead, if_pos (by rfl)]

/-- Slashes alone part the segments that slashes and backslashes did. -/
theorem splitOn_forwardSlashes (cs : List Char) : (forwardSlashes cs).splitOn '/' = segments cs := by
  rw [segments_eq]
  induction cs with
  | nil => rfl
  | cons c cs ih =>
    rw [forwardSlashes, List.map_cons, ← forwardSlashes, List.splitOnP_cons_eq_if_modifyHead, ← ih]
    by_cases hback : c = '\\'
    · subst hback
      rw [if_pos rfl, splitOn_slash_cons, if_pos (by rfl)]
    · have hsame : isSeparator c = (c == '/') := by
        rw [isSeparator, beq_eq_false_iff_ne.2 hback, Bool.or_false]
      rw [if_neg hback, List.splitOn_cons_eq_if_modifyHead, hsame]

theorem ne_nil_or_of_head? {cs s : List Char} {ss : List (List Char)} (h : cs.splitOn '/' = s :: ss)
    (hcs : cs.head? ≠ some '/') : s ≠ [] ∨ ss = [] := by
  cases cs with
  | nil =>
    cases h
    exact .inr rfl
  | cons c cs =>
    have hc : ¬ (c == '/') = true := fun hc => hcs (congrArg some (eq_of_beq hc))
    obtain ⟨t, ts, hrest⟩ := List.exists_cons_of_ne_nil (List.splitOn_ne_nil '/' cs)
    rw [List.splitOn_cons_eq_if_modifyHead, if_neg hc, hrest, List.modifyHead_cons] at h
    cases h
    exact .inl (List.cons_ne_nil _ _)

/-- To make runs of slashes one is to leave out the empty segments behind the first. -/
theorem splitOn_collapse {cs s : List Char} {ss : List (List Char)} (h : cs.splitOn '/' = s :: ss) :
    (collapse cs).splitOn '/' = s :: squeeze ss := by
  induction cs generalizing s ss with
  | nil =>
    cases h
    rfl
  | cons c cs ih =>
    obtain ⟨t, ts, hrest⟩ := List.exists_cons_of_ne_nil (List.splitOn_ne_nil '/' cs)
    rw [List.splitOn_cons_eq_if_modifyHead, hrest] at h
    rw [collapse]
    by_cases hc : c = '/'
    · subst hc
      rw [if_pos (by rfl)] at h
      cases h
      by_cases hnext : cs.head? = some '/'
      · -- the slash goes, and with it the empty segment behind it
        obtain ⟨cs, rfl⟩ := List.head?_eq_some_iff.1 hnext
        rw [splitOn_slash_cons] at hrest
        cases hrest
        rw [if_pos ⟨rfl, hnext⟩, ih (splitOn_slash_cons cs), squeeze_nil_cons (List.splitOn_ne_nil '/' cs)]
      · rw [if_neg fun h => hnext h.2, splitOn_slash_cons, ih hrest, squeeze_cons (ne_nil_or_of_head? hrest hnext)]
    · rw [if_neg (by simpa using hc), List.modifyHead_cons] at h
      cases h
      rw [if_neg (fun h => hc h.1), List.splitOn_cons_eq_if_modifyHead, if_neg (by simpa using hc), ih hrest,
        List.modifyHead_cons]

theorem head?_collapse (cs : List Char) : (collapse cs).head? = cs.head? := by
  induction cs with
  | nil => rfl
  | cons c cs ih =>
    rw [collapse]
    split
    · rename_i h
      rw [ih, h.2, h.1]
      rfl
    · rfl

/-- Behind the slash in front of everything stand the segments without the empty ones. -/
theorem splitOn_fromRoot (cs : List Char) : (fromRoot (collapse cs)).splitOn '/' = [] :: squeeze (cs.splitOn '/') := by
  rw [fromRoot, head?_collapse]
  obtain ⟨s, ss, hcs⟩ := List.exists_cons_of_ne_nil (List.splitOn_ne_nil '/' cs)
  split
  · rename_i hroot
    obtain ⟨cs, rfl⟩ := List.head?_eq_some_iff.1 hroot
    rw [splitOn_collapse (splitOn_slash_cons cs), splitOn_slash_cons, squeeze_nil_cons (List.splitOn_ne_nil '/' cs)]
  · rename_i hroot
    rw [splitOn_slash_cons, splitOn_collapse hcs, hcs, squeeze_cons (ne_nil_or_of_head? hcs hroot)]

/-- The loop's input is written from segments of which only the last may be empty, with plain dots. -/
theorem prepare_eq (path : List Char) :
    prepare path = ((squeeze (segments path)).map plainDots).flatMap ('/' :: ·) := by
  rw [prepare, splitOn_fromRoot, splitOn_forwardSlashes, List.map_cons, intercalate_cons]
  rfl

/-! ## What the segments are walked to -/

theorem foldl_walk_squeeze (trail ss : List (List Char)) : (squeeze ss).foldl walk trail = ss.foldl walk trail := by
  induction ss using squeeze.induct generalizing trail with
  | case1 => rfl
  | case2 s => rfl
  | case3 t ss ih =>
    rw [squeeze, if_pos rfl, ih, List.foldl_cons]
    rfl
  | case4 s t ss hs ih =>
    rw [squeeze, if_neg hs]
    exact ih (walk trail s)

/-- A segment that is read as "here" or "one up" is made one dot or two, and no other is changed. -/
theorem plainDots_cases (s : List Char) :
    isCurrent s = true ∧ plainDots s = ".".toList ∨
    isCurrent s = false ∧ isParent s = true ∧ plainDots s = "..".toList ∨
    isCurrent s = false ∧ isParent s = false ∧ plainDots s = s := by
  unfold plainDots
  split
  · rename_i hdot
    rw [List.contains_iff_mem] at hdot
    exact .inl ⟨isCurrent_iff.2 hdot, rfl⟩
  · rename_i hdot
    rw [List.contains_iff_mem] at hdot
    have hcurrent := Bool.eq_false_iff.2 (mt isCurrent_iff.1 hdot)
    split
    · rename_i hdotDot
      rw [List.contains_iff_mem] at hdotDot
      exact .inr (.inl ⟨hcurrent, isParent_iff.2 hdotDot, rfl⟩)
    · rename_i hdotDot
      rw [List.contains_iff_mem] at hdotDot
      exact .inr (.inr ⟨hcurrent, Bool.eq_false_iff.2 (mt isParent_iff.1 hdotDot), rfl⟩)

theorem walk_plainDots (trail : List (List Char)) (s : List Char) : walk trail (plainDots s) = walk trail s := by
  rcases plainDots_cases s with ⟨hcurrent, hs⟩ | ⟨hcurrent, hparent, hs⟩ | ⟨-, -, hs⟩
  · rw [hs, walk, walk, hcurrent, Bool.or_true, if_pos rfl]
    rfl
  · have hne : s.isEmpty = false := by
      rw [List.isEmpty_eq_false_iff]
      rintro rfl
      cases hparent
    rw [hs, walk, walk, hcurrent, hparent, hne]
    rfl
  · rw [hs]

/-- The segments before the loop are walked to what the path is resolved to. -/
theorem foldl_walk_prepared (path : List Char) :
    ((squeeze (segments path)).map plainDots).foldl walk [] = (resolve path).reverse := by
  have hplain : (fun trail s => walk trail (plainDots s)) = walk := by
    funext trail s
    exact walk_plainDots trail s
  rw [List.foldl_map, hplain, foldl_walk_squeeze, resolve, List.reverse_reverse]

/-! ## The rounds of the loop -/

theorem removeDotSegments_cons (c : Char) (cs output : List Char) :
    removeDotSegments (c :: cs) output =
      removeDotSegments (remove (c :: cs) output).1 (remove (c :: cs) output).2 := by
  rw [removeDotSegments]

theorem removeDotSegments_nil (output : List Char) : removeDotSegments [] output = output := by
  rw [removeDotSegments]

theorem removeDotSegments_slash (output : List Char) : removeDotSegments ['/'] output = output ++ ['/'] := by
  rw [removeDotSegments_cons]
  exact removeDotSegments_nil _

/-- One dot goes, and what follows it stays; at the end it leaves its slash. -/
theorem removeDotSegments_dot (ss : List (List Char)) (output : List Char) :
    removeDotSegments ((".".toList :: ss).flatMap ('/' :: ·)) output =
      if ss = [] then output ++ ['/'] else removeDotSegments (ss.flatMap ('/' :: ·)) output := by
  rw [List.flatMap_cons, List.cons_append, removeDotSegments_cons]
  cases ss with
  | nil => exact removeDotSegments_slash output
  | cons t ss => rfl

/-- Two dots go, and with them the last segment of the output. -/
theorem removeDotSegments_dotDot (ss : List (List Char)) (output : List Char) :
    removeDotSegments (("..".toList :: ss).flatMap ('/' :: ·)) output =
      if ss = [] then dropSegment output ++ ['/']
      else removeDotSegments (ss.flatMap ('/' :: ·)) (dropSegment output) := by
  rw [List.flatMap_cons, List.cons_append, removeDotSegments_cons]
  cases ss with
  | nil => exact removeDotSegments_slash (dropSegment output)
  | cons t ss => rfl

theorem remove_slash {cs s rest output : List Char} (hs : cs.takeWhile (· != '/') = s)
    (hrest : cs.dropWhile (· != '/') = rest) (hdot : s ≠ ".".toList) (hdotDot : s ≠ "..".toList) :
    remove ('/' :: cs) output = (rest, output ++ '/' :: s) := by
  subst hs hrest
  unfold remove
  split
  -- the rules in their order: only the last of them takes such a segment
  case h_3 | h_4 =>
    rename_i heq
    cases heq
    exact absurd rfl hdot
  case h_5 | h_6 =>
    rename_i heq
    cases heq
    exact absurd rfl hdotDot
  case h_9 =>
    rename_i heq
    cases heq
    rfl
  all_goals
    rename_i heq
    cases heq

theorem removeDotSegments_segment {s : List Char} (hslash : '/' ∉ s) (hdot : s ≠ ".".toList)
    (hdotDot : s ≠ "..".toList) (ss : List (List Char)) (output : List Char) :
    removeDotSegments ((s :: ss).flatMap ('/' :: ·)) output =
      removeDotSegments (ss.flatMap ('/' :: ·)) (output ++ '/' :: s) := by
  have hfirst : (s ++ ss.flatMap ('/' :: ·)).takeWhile (· != '/') = s ∧
      (s ++ ss.flatMap ('/' :: ·)).dropWhile (· != '/') = ss.flatMap ('/' :: ·) := by
    cases ss with
    | nil =>
      rw [List.flatMap_nil, List.append_nil]
      exact ⟨takeWhile_of_notMem hslash, dropWhile_of_notMem hslash⟩
    | cons t ss => exact ⟨takeWhile_append_mark hslash _, dropWhile_append_mark hslash _⟩
  rw [List.flatMap_cons, List.cons_append, removeDotSegments_cons, remove_slash hfirst.1 hfirst.2 hdot hdotDot]

/-! ## The whole loop -/

/-- Segments as the loop meets them: without slashes, empty at the end only, and with plain dots. -/
structure IsPrepared (ss : List (List Char)) : Prop where
  noSlash : ∀ s ∈ ss, '/' ∉ s
  ne_nil : ∀ s ∈ ss.dropLast, s ≠ []
  current : ∀ s ∈ ss, isCurrent s = true → s = ".".toList
  parent : ∀ s ∈ ss, isParent s = true → s = "..".toList

theorem IsPrepared.tail {s : List Char} {ss : List (List Char)} (h : IsPrepared (s :: ss)) : IsPrepared ss := by
  obtain ⟨hslash, hne, hcurrent, hparent⟩ := h
  refine ⟨(List.forall_mem_cons.1 hslash).2, fun t ht => hne t ?_, (List.forall_mem_cons.1 hcurrent).2,
    (List.forall_mem_cons.1 hparent).2⟩
  cases ss with
  | nil => exact absurd ht List.not_mem_nil
  | cons u ss => exact List.mem_cons_of_mem s ht

theorem IsPrepared.eq_nil {ss : List (List Char)} (h : IsPrepared ([] :: ss)) : ss = [] := by
  cases ss with
  | nil => rfl
  | cons t ss => exact absurd rfl (h.ne_nil [] (List.mem_cons_self ..))

theorem dropSegment_reverse {trail : List (List Char)} (h : ∀ s ∈ trail, '/' ∉ s) :
    dropSegment (trail.reverse.flatMap ('/' :: ·)) = trail.tail.reverse.flatMap ('/' :: ·) := by
  cases trail with
  | nil => rfl
  | cons s trail =>
    have hs : '/' ∉ s.reverse := fun hs => h s (List.mem_cons_self ..) (List.mem_reverse.1 hs)
    rw [List.reverse_cons, List.flatMap_append, List.flatMap_singleton, dropSegment, List.reverse_append,
      List.reverse_cons, List.append_assoc, List.singleton_append, dropWhile_append_mark hs, List.drop_one,
      List.tail_cons, List.reverse_reverse, List.tail_cons]

/-- From an output written from the trail, the loop leaves the segments that are walked to, and a slash behind them if
the last one that it met leaves none. -/
def Resolves (ss trail : List (List Char)) : Prop :=
  let walked := ss.foldl walk trail
  let output := removeDotSegments (ss.flatMap ('/' :: ·)) (trail.reverse.flatMap ('/' :: ·))
  output = walked.reverse.flatMap ('/' :: ·) ++ ['/'] ∨
    output = walked.reverse.flatMap ('/' :: ·) ∧ (ss ≠ [] → walked ≠ [])

variable {s : List Char} {ss trail : List (List Char)}

theorem resolves_nil : Resolves [] trail := .inr ⟨removeDotSegments_nil _, fun h => absurd rfl h⟩

theorem resolves_empty : Resolves [[]] trail := .inl (removeDotSegments_slash _)

theorem resolves_dot (h : Resolves ss trail) : Resolves (".".toList :: ss) trail := by
  unfold Resolves at h ⊢
  rw [removeDotSegments_dot]
  cases ss with
  | nil => exact .inl rfl
  | cons t ss => exact h.imp_right fun h => ⟨h.1, fun _ => h.2 (List.cons_ne_nil _ _)⟩

theorem resolves_dotDot (htrail : ∀ s ∈ trail, '/' ∉ s) (h : Resolves ss trail.tail) :
    Resolves ("..".toList :: ss) trail := by
  unfold Resolves at h ⊢
  rw [removeDotSegments_dotDot, dropSegment_reverse htrail]
  cases ss with
  | nil => exact .inl rfl
  | cons t ss => exact h.imp_right fun h => ⟨h.1, fun _ => h.2 (List.cons_ne_nil _ _)⟩

/-- A segment that is walked stands in the output from then on. -/
theorem resolves_segment (hslash : '/' ∉ s) (hdot : s ≠ ".".toList) (hdotDot : s ≠ "..".toList)
    (hwalk : walk trail s = s :: trail) (h : Resolves ss (s :: trail)) : Resolves (s :: ss) trail := by
  unfold Resolves at h ⊢
  rw [List.reverse_cons, List.flatMap_append, List.flatMap_singleton] at h
  rw [removeDotSegments_segment hslash hdot hdotDot, List.foldl_cons, hwalk]
  refine h.imp_right fun h => ⟨h.1, fun _ => ?_⟩
  cases ss with
  | nil => exact List.cons_ne_nil _ _
  | cons t ss => exact h.2 (List.cons_ne_nil _ _)

/-- The loop resolves all segments that are prepared for it. -/
theorem resolves_of_isPrepared (hss : IsPrepared ss) (htrail : ∀ s ∈ trail, '/' ∉ s) : Resolves ss trail := by
  induction ss generalizing trail with
  | nil => exact resolves_nil
  | cons s ss ih =>
    have hrest := hss.tail
    have hslash := hss.noSlash s (List.mem_cons_self ..)
    rcases eq_or_ne s [] with rfl | hne
    · cases hss.eq_nil
      exact resolves_empty
    by_cases hcurrent : isCurrent s = true
    · obtain rfl := hss.current s (List.mem_cons_self ..) hcurrent
      exact resolves_dot (ih hrest htrail)
    by_cases hparent : isParent s = true
    · obtain rfl := hss.parent s (List.mem_cons_self ..) hparent
      exact resolves_dotDot htrail (ih hrest fun s hs => htrail s (List.mem_of_mem_tail hs))
    · have hdot : s ≠ ".".toList := by
        rintro rfl
        exact hcurrent rfl
      have hdotDot : s ≠ "..".toList := by
        rintro rfl
        exact hparent rfl
      have hwalk : walk trail s = s :: trail := by
        rw [walk, List.isEmpty_eq_false_iff.2 hne, Bool.eq_false_iff.2 hcurrent, Bool.eq_false_iff.2 hparent]
        rfl
      exact resolves_segment hslash hdot hdotDot hwalk (ih hrest (List.forall_mem_cons.2 ⟨hslash, htrail⟩))

/-! ## The segments of a path -/

theorem mem_of_mem_squeeze (h : s ∈ squeeze ss) : s ∈ ss := by
  induction ss using squeeze.induct with
  | case1 => exact h
  | case2 t => exact h
  | case3 u ss ih =>
    rw [squeeze, if_pos rfl] at h
    exact List.mem_cons_of_mem _ (ih h)
  | case4 t u ss ht ih =>
    rw [squeeze, if_neg ht] at h
    rcases List.mem_cons.1 h with rfl | h
    · exact List.mem_cons_self ..
    · exact List.mem_cons_of_mem _ (ih h)

theorem squeeze_ne_nil (h : ss ≠ []) : squeeze ss ≠ [] := by
  induction ss using squeeze.induct with
  | case1 => exact h
  | case2 t => exact h
  | case3 u ss ih =>
    rw [squeeze, if_pos rfl]
    exact ih (List.cons_ne_nil _ _)
  | case4 t u ss ht ih =>
    rw [squeeze, if_neg ht]
    exact List.cons_ne_nil _ _

theorem ne_nil_of_mem_dropLast (h : s ∈ (squeeze ss).dropLast) : s ≠ [] := by
  induction ss using squeeze.induct with
  | case1 => exact absurd h List.not_mem_nil
  | case2 t => exact absurd h List.not_mem_nil
  | case3 u ss ih =>
    rw [squeeze, if_pos rfl] at h
    exact ih h
  | case4 t u ss ht ih =>
    rw [squeeze, if_neg ht, List.dropLast_cons_of_ne_nil (squeeze_ne_nil (List.cons_ne_nil _ _))] at h
    rcases List.mem_cons.1 h with rfl | h
    · exact ht
    · exact ih h

theorem isPrepared_segments (path : List Char) : IsPrepared ((squeeze (segments path)).map plainDots) := by
  constructor
  · intro s hs
    obtain ⟨t, ht, rfl⟩ := List.mem_map.1 hs
    rcases plainDots_cases t with ⟨-, ht'⟩ | ⟨-, -, ht'⟩ | ⟨-, -, ht'⟩
    · rw [ht']
      decide
    · rw [ht']
      decide
    · intro hslash
      rw [ht'] at hslash
      cases isSeparator_of_mem_segments (mem_of_mem_squeeze ht) _ hslash
  · intro s hs hnil
    rw [← List.map_dropLast] at hs
    obtain ⟨t, ht, rfl⟩ := List.mem_map.1 hs
    rcases plainDots_cases t with ⟨-, ht'⟩ | ⟨-, -, ht'⟩ | ⟨-, -, ht'⟩
    · cases ht'.symm.trans hnil
    · cases ht'.symm.trans hnil
    · exact ne_nil_of_mem_dropLast ht (ht'.symm.trans hnil)
  · intro s hs hcurrent
    obtain ⟨t, -, rfl⟩ := List.mem_map.1 hs
    rcases plainDots_cases t with ⟨-, ht⟩ | ⟨-, -, ht⟩ | ⟨ht, -, ht'⟩
    · exact ht
    · rw [ht] at hcurrent
      cases hcurrent
    · rw [ht', ht] at hcurrent
      cases hcurrent
  · intro s hs hparent
    obtain ⟨t, -, rfl⟩ := List.mem_map.1 hs
    rcases plainDots_cases t with ⟨-, ht⟩ | ⟨-, -, ht⟩ | ⟨-, ht, ht'⟩
    · rw [ht] at hparent
      cases hparent
    · exact ht
    · rw [ht', ht] at hparent
      cases hparent

/-! ## The slash at the end -/

theorem trimSlash_append {path : List Char} (h : path ≠ []) : trimSlash (path ++ ['/']) = path := by
  have hne : path ++ ['/'] ≠ ['/'] := by
    intro heq
    exact h (List.append_cancel_right (heq.trans (List.nil_append ['/']).symm))
  rw [trimSlash, if_pos ⟨hne, List.getLast?_concat⟩, List.dropLast_concat]

theorem trimSlash_flatMap (h : ∀ s ∈ ss, IsProper s) :
    trimSlash (ss.flatMap ('/' :: ·)) = ss.flatMap ('/' :: ·) := by
  have hlast : (ss.flatMap ('/' :: ·)).getLast? ≠ some '/' := by
    rcases List.eq_nil_or_concat ss with rfl | ⟨rest, s, rfl⟩
    · exact nofun
    · have hs := h s (by simp)
      intro hslash
      rw [List.concat_eq_append, List.flatMap_append, List.flatMap_singleton, List.getLast?_append_cons] at hslash
      obtain ⟨c, cs, rfl⟩ := List.exists_cons_of_ne_nil hs.ne_nil
      rw [List.getLast?_cons_cons] at hslash
      cases hs.noSeparator _ (List.mem_of_getLast? hslash)
  rw [trimSlash, if_neg fun h => hlast h.2]

/-- `removeDotSegments` leaves the segments of `resolve`, and at most a slash behind them. -/
theorem removeDotSegments_prepare (path : List Char) :
    removeDotSegments (prepare path) [] = (resolve path).flatMap ('/' :: ·) ++ ['/'] ∨
      removeDotSegments (prepare path) [] = (resolve path).flatMap ('/' :: ·) ∧ resolve path ≠ [] := by
  have hne : (squeeze (segments path)).map plainDots ≠ [] :=
    mt List.map_eq_nil_iff.1 (squeeze_ne_nil (List.splitOnP_ne_nil _ _))
  rcases @resolves_of_isPrepared _ [] (isPrepared_segments path) nofun with h | ⟨h, hwalked⟩
  · rw [foldl_walk_prepared, ← prepare_eq, List.reverse_reverse] at h
    exact .inl h
  · rw [foldl_walk_prepared, ← prepare_eq, List.reverse_reverse] at h
    rw [foldl_walk_prepared] at hwalked
    exact .inr ⟨h, mt List.reverse_eq_nil_iff.2 (hwalked hne)⟩

/-- `normalize path` is what `removeDotSegments` leaves of `prepare path`, without the slash at its end unless it is
the root (`trimSlash`). `prepare` turns backslashes into slashes, makes runs of slashes one, puts a slash in front,
and makes the dots of dot segments plain. -/
theorem normalize_eq_removeDotSegments (path : String) :
    normalize path = String.ofList (trimSlash (removeDotSegments (prepare path.toList) [])) := by
  have hproper : ∀ s ∈ resolve path.toList, IsProper s := fun _ => isProper_of_mem_resolve
  rw [normalize]
  rcases removeDotSegments_prepare path.toList with h | ⟨h, hne⟩
  · rw [h]
    cases resolve path.toList with
    | nil => rfl
    | cons s ss =>
      have hpath : (s :: ss).flatMap ('/' :: ·) ≠ [] := List.cons_ne_nil _ _
      rw [trimSlash_append hpath, render]
  · obtain ⟨s, ss, hresolve⟩ := List.exists_cons_of_ne_nil hne
    rw [h, trimSlash_flatMap hproper, hresolve, render]

example : removeDotSegments (prepare "a\\b//c/%2E/../.%2e/g/..".toList) [] = "/a/".toList := by cbv

end Gatehouse.Route
