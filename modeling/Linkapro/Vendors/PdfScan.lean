import Linkapro.Lib.Chunks

/-!
# Vendors: the scan of a verification document

The view scans an uploaded PDF chunk by chunk. It keeps the first four bytes, the last 2048
and a window of 32, and looks for its markers in the window and the new chunk. The scan
says of a document what a look at all of its bytes would say.
-/

namespace Linkapro.Vendors

open Lib

/-- `PDF_EOF_TAIL_BYTES`. -/
def pdfEofTailBytes : ℕ := 2048

/-- `PDF_SCAN_OVERLAP_BYTES`. -/
def pdfScanOverlapBytes : ℕ := 32

/-- `PDF_HEADER_BYTES`. -/
def pdfHeaderBytes : ℕ := 4

/-- `PDF_PAGE_MARKERS`: the type entry of a page, with and without a blank. -/
def pdfPageMarkers : List (List UInt8) :=
  [[0x2f, 0x54, 0x79, 0x70, 0x65, 0x20, 0x2f, 0x50, 0x61, 0x67, 0x65],
    [0x2f, 0x54, 0x79, 0x70, 0x65, 0x2f, 0x50, 0x61, 0x67, 0x65]]

/-- `PDF_PROTECTION_MARKER`: the name of the encryption entry. -/
def pdfProtectionMarker : List UInt8 := [0x2f, 0x45, 0x6e, 0x63, 0x72, 0x79, 0x70, 0x74]

/-- `PDF_EOF_MARKER`: two percent signs and the letters `EOF`. -/
def pdfEofMarker : List UInt8 := [0x25, 0x25, 0x45, 0x4f, 0x46]

/-- `PDF_HEADER_MARKER`: a percent sign and the letters `PDF`. -/
def pdfHeaderMarker : List UInt8 := [0x25, 0x50, 0x44, 0x46]

/-- A chunk of an uploaded document: bytes, or text that is encoded. -/
inductive Chunk : Type where
  | bytes (value : List UInt8)
  | text (value : String)

/-- The bytes of a chunk. -/
def Chunk.encoded : Chunk → List UInt8
  | .bytes value => value
  | .text value => value.toList.flatMap String.utf8EncodeChar

/-- The result of a scan. -/
structure PdfScan where
  startsWithPdf : Bool
  hasEofMarker : Bool
  isProtected : Bool
  hasPage : Bool
deriving DecidableEq

/-- The local variables of the loop of `_scan_pdf`. -/
structure PdfScanState where
  header : List UInt8
  tail : List UInt8
  overlap : List UInt8
  hasPage : Bool
  isProtected : Bool

namespace PdfScanState

/-- The variables before the first chunk. -/
def initial : PdfScanState :=
  { header := [], tail := [], overlap := [], hasPage := false, isProtected := false }

/-- One round of the loop. -/
def scanChunk (s : PdfScanState) (chunk : Chunk) : PdfScanState :=
  let chunk := chunk.encoded
  if chunk = [] then s
  else
    let header :=
      if s.header.length < pdfHeaderBytes then (s.header ++ chunk).take pdfHeaderBytes else s.header
    let scanWindow := s.overlap ++ chunk
    let isProtected := if pdfProtectionMarker <:+: scanWindow then true else s.isProtected
    let hasPage :=
      if pdfPageMarkers.any fun marker => marker <:+: scanWindow then true else s.hasPage
    { header
      tail := (s.tail ++ chunk).rtake pdfEofTailBytes
      overlap := scanWindow.rtake pdfScanOverlapBytes
      hasPage
      isProtected }

/-- The result at the end of the loop. -/
def result (s : PdfScanState) : PdfScan where
  startsWithPdf := pdfHeaderMarker <+: s.header
  hasEofMarker := pdfEofMarker <:+: s.tail
  isProtected := s.isProtected
  hasPage := s.hasPage

end PdfScanState

/-- `_scan_pdf`. -/
def scanPdf (chunks : List Chunk) : PdfScan :=
  (chunks.foldl PdfScanState.scanChunk .initial).result

/-- What a document says when all its bytes are looked at. -/
def scanBytes (document : List UInt8) : PdfScan where
  startsWithPdf := pdfHeaderMarker <+: document
  hasEofMarker := pdfEofMarker <:+: document.rtake pdfEofTailBytes
  isProtected := pdfProtectionMarker <:+: document
  hasPage := pdfPageMarkers.any fun marker => marker <:+: document

/-- The variables of the loop stand for the bytes seen so far. -/
structure Scanned (seen : List UInt8) (s : PdfScanState) : Prop where
  header : s.header = seen.take pdfHeaderBytes
  tail : s.tail = seen.rtake pdfEofTailBytes
  overlap : s.overlap = seen.rtake pdfScanOverlapBytes
  isProtected : s.isProtected = true ↔ pdfProtectionMarker <:+: seen
  hasPage : s.hasPage = true ↔ ∃ marker ∈ pdfPageMarkers, marker <:+: seen

namespace Scanned

variable {seen : List UInt8} {s : PdfScanState} {chunk : Chunk}

/-- Nothing is seen before the first chunk. -/
theorem initial : Scanned [] .initial where
  header := rfl
  tail := rfl
  overlap := rfl
  isProtected := by decide
  hasPage := by decide

/-- The overlap is long enough for the markers that are looked for. -/
theorem marker_fits : ∀ marker ∈ pdfProtectionMarker :: pdfPageMarkers,
    marker.length ≤ pdfScanOverlapBytes + 1 := by
  decide

/-- A marker is found after a chunk as soon as it is in the bytes seen. -/
theorem infix_window_iff {marker : List UInt8} (h : Scanned seen s)
    (hmarker : marker ∈ pdfProtectionMarker :: pdfPageMarkers) :
    marker <:+: seen ++ chunk.encoded ↔
      marker <:+: s.overlap ++ chunk.encoded ∨ marker <:+: seen := by
  rw [infix_append_iff (marker_fits marker hmarker), h.overlap]
  exact or_comm

/-- A round of the loop adds a chunk to the bytes seen. -/
theorem scanChunk (h : Scanned seen s) : Scanned (seen ++ chunk.encoded) (s.scanChunk chunk) := by
  unfold PdfScanState.scanChunk
  dsimp only
  by_cases hempty : chunk.encoded = []
  · rw [if_pos hempty, hempty, List.append_nil]
    exact h
  rw [if_neg hempty]
  refine
    { header := ?_
      tail := ?_
      overlap := ?_
      isProtected := ?_
      hasPage := ?_ }
  · dsimp only
    rw [h.header]
    split
    · exact take_take_append
    · next hfull => exact (take_append_of_full (not_lt.mp hfull)).symm
  · dsimp only
    rw [h.tail]
    exact rtake_rtake_append
  · dsimp only
    rw [h.overlap]
    exact rtake_rtake_append
  · dsimp only
    rw [h.infix_window_iff List.mem_cons_self, ← h.isProtected]
    split
    · next hfound => exact ⟨fun _ => .inl hfound, fun _ => rfl⟩
    · next hmissing => exact ⟨.inr, fun hseen => hseen.resolve_left hmissing⟩
  · have hwindow : (∃ marker ∈ pdfPageMarkers, marker <:+: seen ++ chunk.encoded) ↔
        (∃ marker ∈ pdfPageMarkers, marker <:+: s.overlap ++ chunk.encoded) ∨
          ∃ marker ∈ pdfPageMarkers, marker <:+: seen := by
      rw [← exists_or]
      refine exists_congr fun marker => ?_
      rw [← and_or_left]
      exact and_congr_right fun hmem => h.infix_window_iff (List.mem_cons_of_mem _ hmem)
    dsimp only
    rw [hwindow, ← h.hasPage]
    simp only [List.any_eq_true, decide_eq_true_eq]
    split
    · next hfound => exact ⟨fun _ => .inl hfound, fun _ => rfl⟩
    · next hmissing => exact ⟨.inr, fun hseen => hseen.resolve_left hmissing⟩

/-- The loop sees all chunks. -/
theorem foldl (h : Scanned seen s) (chunks : List Chunk) :
    Scanned (seen ++ (chunks.map Chunk.encoded).flatten)
      (chunks.foldl PdfScanState.scanChunk s) := by
  induction chunks generalizing seen s with
  | nil =>
    rw [List.map_nil, List.flatten_nil, List.append_nil]
    exact h
  | cons chunk chunks ih =>
    rw [List.map_cons, List.flatten_cons, ← List.append_assoc]
    exact ih h.scanChunk

/-- The result is that of the bytes seen. -/
theorem result_eq (h : Scanned seen s) : s.result = scanBytes seen := by
  have hheader : pdfHeaderMarker <+: seen.take pdfHeaderBytes ↔ pdfHeaderMarker <+: seen :=
    ⟨fun hprefix => hprefix.trans (List.take_prefix ..),
      fun hprefix => List.prefix_of_prefix_length_le hprefix (List.take_prefix ..) (by
        have hlength := hprefix.length_le
        rw [List.length_take]
        exact le_min (by decide) hlength)⟩
  have hpage : (∃ marker ∈ pdfPageMarkers, marker <:+: seen) ↔
      (pdfPageMarkers.any fun marker => marker <:+: seen) = true := by
    simp only [List.any_eq_true, decide_eq_true_eq]
  unfold PdfScanState.result scanBytes
  rw [h.header, h.tail, decide_eq_decide.mpr hheader]
  congr 1
  · exact Bool.eq_iff_iff.mpr (h.isProtected.trans decide_eq_true_iff.symm)
  · exact Bool.eq_iff_iff.mpr (h.hasPage.trans hpage)

end Scanned

/-- However a document is split into chunks, the scan says what all its bytes say. -/
theorem scanPdf_eq (chunks : List Chunk) :
    scanPdf chunks = scanBytes (chunks.map Chunk.encoded).flatten :=
  (Scanned.initial.foldl chunks).result_eq

/-- A page marker in four chunks, one of them empty, is found. -/
example : (scanPdf [.text "%PD", .text "F/Ty", .text "", .text "pe /P", .text "age%%EOF"]).hasPage =
    true := by
  decide +kernel

end Linkapro.Vendors
