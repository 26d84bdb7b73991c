import Graft64.Platform.Details
import Graft64.Platform.Probes

/-! What `page_model` reports, and that its details always say it. -/

namespace Graft64.Platform.Probes

open Graft64.Library Utf8 Json

set_option maxRecDepth 4000

def stageReport (stage : String) (e : ℕ) : Json := .obj [(lit "stage", .str (lit stage)), (lit "os_error", .int e)]

lemma recorded_lt (o : Option SysError) : recorded o < 2 ^ 31 := by
  cases o with
  | none => decide
  | some e => exact e.errno_lt

def pageItemReport (c : PageCalls) (i : Fin 16) : Json :=
  .obj [(lit "offset", .int (i.val * logicalPageSize : ℕ)), (lit "result", .int (result (c.offsets i))),
    (lit "errno", .int (recorded (c.offsets i)))]

def pageReport (c : PageCalls) : Json :=
  .obj [(lit "getpagesize", .int c.page), (lit "sysconf_pagesize", .int c.sysconf.toInt),
    (lit "allocation_granularity", .int c.page), (lit "logical_page_size", .int logicalPageSize),
    (lit "region_size", .int regionSize), (lit "mapping_size", .int (mappingSize c.page)),
    (lit "mmap_flags", .str (lit "MAP_PRIVATE|MAP_ANON")), (lit "offsets_tested", .int (16 : ℕ)),
    (lit "offset_successes", .int c.successes),
    (lit "offset_results", .arr ((List.finRange 16).map (pageItemReport c))),
    (lit "same_host_page_test",
      .obj [(lit "applicable", .bool c.applicable), (lit "first_offset", .int 0),
        (lit "first_result", .int (result c.first)), (lit "first_errno", .int (recorded c.first)),
        (lit "second_offset", .int logicalPageSize), (lit "second_result", .int (result c.second)),
        (lit "second_errno", .int (recorded c.second))]),
    (lit "same_host_page_logical_permissions_separable", .bool c.separable),
    (lit "distinct_4k_permissions_supported", .bool c.distinct)]

def pageModelReport (c : PageCalls) : Json :=
  if c.getpagesize ≤ 0 ∨ c.sysconf ≤ 0 then stageReport "page_size" ((c.errno.map SysError.errno).getD EINVAL)
  else match c.mmap with
  | some e =>
    .obj [(lit "stage", .str (lit "mmap")), (lit "region_size", .int regionSize),
      (lit "mapping_size", .int (mappingSize c.page)), (lit "os_error", .int e.errno)]
  | none => pageReport c

lemma result_fits (o : Option SysError) : Fits64 (result o) := by
  unfold result Fits64
  split_ifs <;> omega

lemma recorded_fits (o : Option SysError) : Fits64 (recorded o) := by
  cases o with
  | none => exact Fits64.natCast (by decide)
  | some e => exact e.fits

lemma page_lt (c : PageCalls) : c.page < 2 ^ 31 := by
  have := c.getpagesize.toInt_lt
  unfold PageCalls.page
  omega

lemma mappingSize_lt {page : ℕ} (h : page < 2 ^ 31) : mappingSize page < 2 ^ 64 := by
  have := Nat.div_mul_le_self (regionSize + page - 1) page
  unfold mappingSize regionSize at *
  omega

lemma successes_lt (c : PageCalls) : c.successes < 2 ^ 64 := by
  have := List.countP_le_length (p := fun i => (c.offsets i).isNone) (l := List.finRange 16)
  rw [List.length_finRange] at this
  unfold PageCalls.successes
  omega

lemma foldl_appendText {texts : List CString} {used : CString}
    (h : used.length + texts.flatten.length < detailsSize) :
    texts.foldl appendText (some used) = some (used ++ texts.flatten) := by
  induction texts generalizing used with
  | nil => simp
  | cons t ts ih =>
    rw [List.flatten_cons, List.length_append] at h
    have ht : appendText (some used) t = some (used ++ t) := by
      rw [appendText, Option.bind_some, if_pos (by omega)]
    rw [List.foldl_cons, ht, ih (by rw [List.length_append]; omega), List.flatten_cons, List.append_assoc]

lemma prints_pageItem (c : PageCalls) (d : ℕ) (i : Fin 16) {tail : CString} {s : Str} {n : ℕ}
    (ht : Prints tail s n) :
    Prints (pageItem c i ++ tail) (render compact d (pageItemReport c i) ++ s) (90 + n) := by
  have hi : Fits64 (i.val * logicalPageSize : ℕ) := Fits64.natCast (by unfold logicalPageSize; omega)
  unfold pageItem
  simp only [List.append_assoc]
  refine .mono (.cast (.text _ rfl (.int _ hi (.text _ rfl (.int _ (result_fits _)
    (.text _ rfl (.int _ (recorded_fits _) (.text _ rfl ht))))))) ?_) ?_
  · unfold pageItemReport
    simp only [render, renderMembers, compact, id, List.nil_append, List.cons_append, List.append_assoc]
    repeat rw [lit_ofList]
    rfl
  · simp only [List.length_cons, List.length_nil, Nat.reduceAdd]
    omega

lemma prints_pageItems (c : PageCalls) (d : ℕ) {tail : CString} {s : Str} {n : ℕ} (ht : Prints tail s n)
    (is : List (Fin 16)) (i : Fin 16) :
    Prints (pageItem c i ++ (is.flatMap (fun k => cstr "," ++ pageItem c k) ++ tail))
      (renderElements compact d ((i :: is).map (pageItemReport c)) ++ s) (90 + (91 * is.length + n)) := by
  induction is generalizing i with
  | nil =>
    simp only [List.flatMap_nil, List.nil_append, List.map_cons, List.map_nil, renderElements]
    exact .mono (prints_pageItem c d i ht) (by simp)
  | cons k is ih =>
    simp only [List.flatMap_cons, List.append_assoc]
    refine .mono (.cast (prints_pageItem c d i (.text _ rfl (ih k))) ?_) ?_
    · simp only [List.map_cons, renderElements, compact, List.append_assoc, List.cons_append, List.nil_append]
      rfl
    · simp only [List.length_cons, List.length_nil, Nat.reduceAdd]
      omega

lemma flatten_pagePieces (c : PageCalls) :
    (pagePieces c).flatten = pageHead c ++ (pageItem c 0 ++
      (((List.finRange 15).map Fin.succ).flatMap (fun k => cstr "," ++ pageItem c k) ++ pageTail c)) := by
  have hs : (List.finRange 15).map (fun i => (if i.succ = 0 then [] else cstr ",") ++ pageItem c i.succ) =
      ((List.finRange 15).map Fin.succ).map fun k => cstr "," ++ pageItem c k := by
    rw [List.map_map]
    refine List.map_congr_left fun i _ => ?_
    simp [Fin.succ_ne_zero]
  rw [pagePieces, List.finRange_succ]
  simp only [List.map_cons, List.map_map, Function.comp_def, if_true, List.nil_append, List.flatten_cons,
    List.cons_append, List.flatten_append, List.flatten_nil, List.append_nil] at hs ⊢
  rw [hs, ← List.flatMap_def, List.flatMap_map]

lemma prints_page (c : PageCalls) : Prints (pagePieces c).flatten (render compact 0 (pageReport c)) 4000 := by
  have hp : Fits64 c.page := Fits64.natCast (Nat.lt_trans (page_lt c) (by decide))
  have hl : Fits64 logicalPageSize := Fits64.natCast (by decide)
  have hr : Fits64 regionSize := Fits64.natCast (by decide)
  have hm : Fits64 (mappingSize c.page) := Fits64.natCast (mappingSize_lt (page_lt c))
  have ho : Fits64 (16 : ℕ) := Fits64.natCast (by decide)
  have hs : Fits64 c.successes := Fits64.natCast (successes_lt c)
  rw [flatten_pagePieces]
  unfold pageHead pageTail
  simp only [List.append_assoc]
  refine .mono (.cast (.text _ rfl (.int _ hp (.text _ rfl (.int _ (Fits64.int64 _) (.text _ rfl (.int _ hp
    (.text _ rfl (.int _ hl (.text _ rfl (.int _ hr (.text _ rfl (.int _ hm (.text _ rfl (.int _ ho
    (.text _ rfl (.int _ hs (.text _ rfl (prints_pageItems c 2 (.text _ rfl (.bool _
    (.text _ rfl (.int _ (result_fits _) (.text _ rfl (.int _ (recorded_fits _) (.text _ rfl (.int _ hl
    (.text _ rfl (.int _ (result_fits _) (.text _ rfl (.int _ (recorded_fits _) (.text _ rfl (.bool _
    (.text _ rfl (.bool _ (.last _ rfl))))))))))))))))) _ _)))))))))))))))))) ?_) ?_
  · have hf : List.finRange 16 = 0 :: (List.finRange 15).map Fin.succ := List.finRange_succ
    unfold pageReport
    rw [hf]
    simp only [render, renderMembers, compact, id, List.nil_append, List.cons_append, List.append_assoc,
      List.map_cons]
    repeat rw [lit_ofList]
    rfl
  · simp only [List.length_cons, List.length_nil, List.length_map, List.length_finRange]
    omega

lemma clean_page (c : PageCalls) : Strings Clean (pageReport c) := by
  have hi : ∀ is : List (Fin 16), ElementStrings Clean (is.map (pageItemReport c)) := by
    intro is
    induction is with
    | nil => trivial
    | cons i is ih =>
      refine ⟨?_, ih⟩
      exact ⟨clean_lit _ rfl, trivial, clean_lit _ rfl, trivial, clean_lit _ rfl, trivial, trivial⟩
  unfold pageReport
  simp only [Strings, MemberStrings, hi]
  and_intros
  all_goals first | exact trivial | exact clean_lit _ rfl

theorem pageModel_faithful (t : Target) (c : PageCalls) :
    Faithful (pageModel t c).details (some (pageModelReport c)) := by
  unfold pageModel pageModelReport
  by_cases hp : c.getpagesize ≤ 0 ∨ c.sysconf ≤ 0
  · rw [if_pos hp, if_pos hp]
    have he : Fits64 ((c.errno.map SysError.errno).getD EINVAL : ℕ) := by
      cases c.errno with
      | none => exact Fits64.natCast (by decide)
      | some e => exact e.fits
    simp only [report_details, List.append_assoc]
    refine faithful_of (.cast (.text _ rfl (.int _ he (.last _ rfl))) ?_) (by decide) ?_
    · unfold stageReport
      simp only [render, renderMembers, compact, id, List.nil_append, List.cons_append, List.append_assoc]
      repeat rw [lit_ofList]
      rfl
    · exact ⟨clean_lit _ rfl, clean_lit _ rfl, clean_lit _ rfl, trivial, trivial⟩
  · rw [if_neg hp, if_neg hp]
    cases c.mmap with
    | some e =>
      simp only [report_details, List.append_assoc]
      refine faithful_of (.cast (.text _ rfl (.int _ (Fits64.natCast (by decide))
        (.text _ rfl (.int _ (Fits64.natCast (mappingSize_lt (page_lt c)))
        (.text _ rfl (.int _ e.fits (.last _ rfl))))))) ?_) (by decide) ?_
      · simp only [render, renderMembers, compact, id, List.nil_append, List.cons_append, List.append_assoc]
        repeat rw [lit_ofList]
        rfl
      · exact ⟨clean_lit _ rfl, clean_lit _ rfl, clean_lit _ rfl, trivial, clean_lit _ rfl, trivial,
          clean_lit _ rfl, trivial, trivial⟩
    | none =>
      have hl := (prints_page c).length_le
      have hf : (pagePieces c).foldl appendText (some []) = some ([] ++ (pagePieces c).flatten) :=
        foldl_appendText (by simp only [List.length_nil, detailsSize]; omega)
      simp only [hf, report_details, List.nil_append]
      exact faithful_of (prints_page c) (by decide) (clean_page c)

end Graft64.Platform.Probes
