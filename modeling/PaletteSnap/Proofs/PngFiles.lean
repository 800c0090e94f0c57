import PaletteSnap.Codec.Png
import PaletteSnap.Proofs.StoredBlocks

namespace PaletteSnap

namespace Bytes

theorem big_reverse (bytes : Bytes) : big bytes.reverse = little bytes := by
  rw [big, List.foldl_reverse]
  induction bytes with
  | nil => rfl
  | cons b rest ih => rw [List.foldr_cons, ih, little, Nat.add_comm]

theorem length_ofBig (width n : Nat) : (ofBig width n).length = width := by
  rw [ofBig, List.length_reverse, length_ofLittle]

theorem big_ofBig_four {n : Nat} (hn : n < UInt32.size) : big (ofBig 4 n) = n := by
  have hlittle : little (ofLittle 4 n) = n := little_ofLittle_of_lt hn
  rw [ofBig, big_reverse, hlittle]

end Bytes

namespace Png

variable {p : Purpose} {d : Draft} {kind data rest : Bytes}

theorem chunkHead?_chunk (hkind : kind.length = 4) (hlen : data.length < UInt32.size) :
    chunkHead? (chunk kind data ++ rest) =
      some (data.length, kind,
        data ++ (Bytes.ofBig 4 (Checksum.crc32 (kind ++ data)).toNat ++ rest)) := by
  simp only [chunkHead?, chunk, List.append_assoc, Option.bind_eq_bind,
    Bytes.take?_append_of_length (Bytes.length_ofBig 4 _), Option.bind_some,
    Bytes.take?_append_of_length hkind, Bytes.big_ofBig_four hlen]
  rfl

theorem chunkBody?_append :
    chunkBody? kind data.length
        (data ++ (Bytes.ofBig 4 (Checksum.crc32 (kind ++ data)).toNat ++ rest)) =
      some (data, true, rest) := by
  have hcrc := Bytes.big_ofBig_four (Checksum.crc32 (kind ++ data)).toNat_lt_size
  simp [chunkBody?, Bytes.take?_append, Bytes.take?_append_of_length (Bytes.length_ofBig 4 _), hcrc]

theorem readChunks_chunk (fuel : Nat) (hkind : kind.length = 4) (hlen : data.length < UInt32.size)
    (hsource : ∀ k ∈ d.source, k = kind) (hne : kind ≠ Kind.ending) :
    readChunks p (fuel + 1) d (chunk kind data ++ rest) =
      (d.add? p kind data).bind fun d => readChunks p fuel d rest := by
  have hsame : d.source.any (· ≠ kind) = false := by
    simpa [Option.any_eq_false] using hsource
  rw [readChunks, chunkHead?_chunk hkind hlen]
  simp only [Option.bind_eq_bind, Option.bind_some, hsame, if_neg hne, chunkBody?_append]
  simp

theorem readChunks_ending (fuel : Nat) {source : Bytes} (hsource : d.source = some source)
    (hne : source ≠ Kind.ending) :
    readChunks p (fuel + 1) d (chunk Kind.ending [] ++ rest) = some d := by
  rw [readChunks, chunkHead?_chunk rfl (by decide)]
  simp [hsource, hne]

theorem readChunks_data {h : Header} (hheader : d.header = some h) (pieces : List Bytes)
    (hpieces : ∀ piece ∈ pieces, piece.length < UInt32.size)
    (hsource : ∀ k ∈ d.source, k = Kind.data) (fuel : Nat) :
    readChunks p (fuel + pieces.length) d (pieces.flatMap (chunk Kind.data) ++ rest) =
      readChunks p fuel (pieces.foldl (fun d piece => d.addData Kind.data piece) d) rest := by
  induction pieces generalizing d with
  | nil => rfl
  | cons piece pieces ih =>
    have hadd : d.add? p Kind.data piece = some (d.addData Kind.data piece) := by
      simp [Draft.add?, hheader, Kind.data, Kind.header, Kind.palette]
    have hnext : ∀ k ∈ (d.addData Kind.data piece).source, k = Kind.data := by
      simp [Draft.addData]
    rw [List.flatMap_cons, List.append_assoc, List.length_cons, ← Nat.add_assoc,
      readChunks_chunk _ rfl (hpieces piece List.mem_cons_self) hsource (by decide), hadd,
      Option.bind_some,
      ih (d := d.addData Kind.data piece) hheader
        (fun q hq => hpieces q (List.mem_cons_of_mem _ hq)) hnext]
    rfl

theorem foldl_addData (d : Draft) (pieces : List Bytes) :
    pieces.foldl (fun d piece => d.addData Kind.data piece) d =
      { d with
        source := if pieces = [] then d.source else some Kind.data
        pieces := pieces.reverse ++ d.pieces } := by
  induction pieces generalizing d with
  | nil => rfl
  | cons piece pieces ih =>
    rw [List.foldl_cons, ih]
    simp [Draft.addData]

structure Header.Writable (h : Header) : Prop where
  width_pos : 0 < h.width
  width_lt : h.width < UInt32.size
  height_pos : 0 < h.height
  height_lt : h.height < UInt32.size
  depth_mem : h.depth ∈ h.layout.depths
  plain : h.interlaced = false

theorem Header.ofBytes?_toBytes {h : Header} (hh : h.Writable) : ofBytes? h.toBytes = some h := by
  obtain ⟨width, height, layout, depth, interlaced⟩ := h
  obtain ⟨hw, hw', hh, hh', hdepth, rfl⟩ := hh
  have hdepth' : (UInt8.ofNat depth).toNat = depth := by
    have hmax : ∀ n ∈ layout.depths, n ≤ 16 := by cases layout <;> decide
    have := hmax depth hdepth
    rw [UInt8.toNat_ofNat']
    omega
  have hcode : (UInt8.ofNat layout.code).toNat = layout.code := by cases layout <;> rfl
  simp [ofBytes?, toBytes, Bytes.take?_append_of_length (Bytes.length_ofBig 4 _),
    Bytes.big_ofBig_four hw', Bytes.big_ofBig_four hh', hdepth', hcode, Layout.ofCode?_code]
  exact ⟨hw, hh, hdepth⟩

theorem restoreFrom_none {lefts corners : Bytes} (prior stored : Bytes) (hlefts : lefts ≠ [])
    (hcorners : corners ≠ []) : Filter.none.restoreFrom lefts corners prior stored = stored := by
  induction stored generalizing lefts corners prior with
  | nil => cases lefts <;> cases corners <;> rfl
  | cons byte rest ih =>
    obtain ⟨a, lefts, rfl⟩ := List.exists_cons_of_ne_nil hlefts
    obtain ⟨c, corners, rfl⟩ := List.exists_cons_of_ne_nil hcorners
    rw [Filter.restoreFrom, ih _ (by simp) (by simp)]
    simp [Filter.predict]

theorem restoreRows_plainRows {stride rowBytes : Nat} (hstride : 0 < stride) {rows : List Bytes}
    (hrows : ∀ row ∈ rows, row.length = rowBytes) (prior : Bytes) :
    restoreRows stride rowBytes rows.length prior (plainRows rows ++ rest) = some (rows, rest) := by
  induction rows generalizing prior with
  | nil => rfl
  | cons row rows ih =>
    have hrow : Filter.none.restore stride prior row = row :=
      restoreFrom_none _ _ (by simpa using Nat.ne_of_gt hstride)
        (by simpa using Nat.ne_of_gt hstride)
    have hrest := ih (fun r hr => hrows r (List.mem_cons_of_mem _ hr)) row
    rw [plainRows] at hrest ⊢
    rw [List.flatMap_cons, List.append_assoc, List.cons_append, List.length_cons, restoreRows]
    simp [Filter.ofByte?, Bytes.take?_append_of_length (hrows row List.mem_cons_self), hrow, hrest]

theorem length_plainRows {rowBytes : Nat} {rows : List Bytes}
    (hrows : ∀ row ∈ rows, row.length = rowBytes) :
    (plainRows rows).length = rows.length * (1 + rowBytes) := by
  induction rows with
  | nil => simp [plainRows]
  | cons row rows ih =>
    have hrest := ih fun r hr => hrows r (List.mem_cons_of_mem _ hr)
    rw [plainRows] at hrest ⊢
    simp only [List.flatMap_cons, List.length_append, List.length_cons, hrest,
      hrows row List.mem_cons_self, Nat.succ_mul]
    omega

end Png

structure Png.Writable (p : Png) : Prop where
  header : p.header.Writable
  palette : ∀ colors ∈ p.palette, Draft.isPalette colors
  length_rows : p.rows.length = p.header.height
  length_row : ∀ row ∈ p.rows, row.length = p.header.rowBytes p.header.width

namespace Png

variable {p : Png} {rest : Bytes}

theorem length_plainRows_rows (hp : p.Writable) :
    (plainRows p.rows).length = storedBytes p.header := by
  rw [length_plainRows hp.length_row, hp.length_rows, storedBytes]
  simp [hp.header.plain, Nat.ne_of_gt hp.header.width_pos]

theorem rows?_plainRows (hp : p.Writable) : rows? p.header (plainRows p.rows) = some p.rows := by
  have hstride : 0 < p.header.stride := Nat.lt_of_lt_of_le Nat.one_pos (Nat.le_max_left _ _)
  have hrows : restoreRows p.header.stride (p.header.rowBytes p.header.width) p.rows.length []
      (plainRows p.rows ++ []) = some (p.rows, []) := restoreRows_plainRows hstride hp.length_row []
  rw [List.append_nil, hp.length_rows] at hrows
  simp [rows?, hp.header.plain, hrows]

def pieces (p : Png) : List Bytes :=
  Bytes.chunks 32767 (Zlib.compress (plainRows p.rows))

theorem length_lt_of_mem_pieces {piece : Bytes} (h : piece ∈ p.pieces) :
    piece.length < UInt32.size :=
  Nat.lt_of_le_of_lt (Bytes.length_le_of_mem_chunks h) (by decide)

theorem pieces_ne_nil (p : Png) : p.pieces ≠ [] := by
  intro hnil
  have hflat := Bytes.flatten_chunks 32767 (Zlib.compress (plainRows p.rows))
  rw [show Bytes.chunks _ _ = [] from hnil] at hflat
  cases hflat

def drafted (p : Png) : Draft :=
  ⟨some p.header, p.palette, some Kind.data, p.pieces.reverse, none, [], false⟩

theorem readChunks_pieces (purpose : Purpose) (fuel : Nat) :
    readChunks purpose (fuel + 1 + p.pieces.length)
        ⟨some p.header, p.palette, none, [], none, [], false⟩
        (p.pieces.flatMap (chunk Kind.data) ++ chunk Kind.ending []) =
      some p.drafted := by
  rw [readChunks_data rfl _ (fun _ => length_lt_of_mem_pieces) (by simp), foldl_addData,
    if_neg p.pieces_ne_nil, ← List.append_nil (chunk Kind.ending []),
    readChunks_ending fuel rfl (by decide)]
  simp [drafted]

theorem readChunks_palette (purpose : Purpose) (hp : p.Writable) {colors : Bytes}
    (hcolors : p.palette = some colors) (fuel : Nat) :
    readChunks purpose (fuel + 1) ⟨some p.header, none, none, [], none, [], false⟩
        (chunk Kind.palette colors ++ rest) =
      readChunks purpose fuel ⟨some p.header, p.palette, none, [], none, [], false⟩ rest := by
  have hvalid := hp.palette colors hcolors
  have hlen : colors.length < UInt32.size := by
    simp only [Draft.isPalette, Bool.and_eq_true, decide_eq_true_eq] at hvalid
    exact Nat.lt_of_le_of_lt hvalid.2 (by decide)
  rw [readChunks_chunk fuel rfl hlen (by simp) (by decide), hcolors]
  simp [Draft.add?, Draft.addPalette?, Kind.palette, Kind.header, hvalid]

theorem readChunks_header (purpose : Purpose) (hp : p.Writable) (fuel : Nat) :
    readChunks purpose (fuel + 1) Draft.empty (chunk Kind.header p.header.toBytes ++ rest) =
      readChunks purpose fuel ⟨some p.header, none, none, [], none, [], false⟩ rest := by
  have hlen : p.header.toBytes.length = 13 := by
    simp [Header.toBytes, Bytes.length_ofBig]
  have hlt : p.header.toBytes.length < UInt32.size := hlen ▸ by decide
  rw [readChunks_chunk fuel rfl hlt (by simp [Draft.empty]) (by decide)]
  simp [Draft.add?, Draft.empty, Header.ofBytes?_toBytes hp.header]

theorem length_le_length_chunks (kind : Bytes) (pieces : List Bytes) :
    pieces.length ≤ (pieces.flatMap (chunk kind)).length := by
  induction pieces with
  | nil => exact Nat.le_refl _
  | cons piece pieces ih =>
    simp only [List.flatMap_cons, List.length_append, List.length_cons, chunk, Bytes.length_ofBig]
    omega

def body (p : Png) : Bytes :=
  chunk Kind.header p.header.toBytes ++ (p.palette.elim [] (chunk Kind.palette) ++
    (p.pieces.flatMap (chunk Kind.data) ++ chunk Kind.ending []))

theorem toBytes_eq (hp : p.Writable) : p.toBytes = signature ++ p.body := by
  have hheader : { p.header with interlaced := false } = p.header := by rw [← hp.header.plain]
  rw [toBytes, hheader, body]
  cases p.palette <;> simp [pieces]

theorem readChunks_body (purpose : Purpose) (hp : p.Writable) (fuel : Nat) :
    readChunks purpose (fuel + p.pieces.length + 3) Draft.empty p.body = some p.drafted := by
  rw [body, readChunks_header purpose hp]
  cases hpalette : p.palette with
  | none =>
    have hfuel : fuel + p.pieces.length + 2 = fuel + 1 + 1 + p.pieces.length := by omega
    have hdata := readChunks_pieces (p := p) purpose (fuel + 1)
    rw [hpalette] at hdata
    rw [hfuel]
    exact hdata
  | some colors =>
    have hfuel : fuel + p.pieces.length + 1 = fuel + 1 + p.pieces.length := by omega
    rw [Option.elim_some, readChunks_palette purpose hp hpalette, hfuel]
    exact readChunks_pieces purpose fuel

theorem length_pieces_add_two_le (p : Png) : p.pieces.length + 2 ≤ p.body.length := by
  have hpieces := length_le_length_chunks Kind.data p.pieces
  have hending : (chunk Kind.ending []).length = 12 := rfl
  simp only [body, List.length_append]
  omega

theorem draft?_toBytes (purpose : Purpose) (hp : p.Writable) :
    draft? purpose p.toBytes = some p.drafted := by
  obtain ⟨fuel, hfuel⟩ := Nat.exists_eq_add_of_le' p.length_pieces_add_two_le
  have hchunks : readChunks purpose (p.body.length + 1) Draft.empty p.body = some p.drafted := by
    rw [hfuel]
    exact readChunks_body purpose hp fuel
  rw [draft?, toBytes_eq hp]
  simp [Bytes.take?_append, hchunks]

theorem ofDraft?_drafted (purpose : Purpose) (hp : p.Writable) :
    ofDraft? purpose p.drafted = some p := by
  have hdata : p.drafted.data = Zlib.compress (plainRows p.rows) := by
    simp [drafted, Draft.data, pieces, Bytes.flatten_chunks]
  have hmore : ∀ n ∈ (if purpose = .decode then some (storedBytes p.header + window) else none),
      (plainRows p.rows).length < n := by
    rw [length_plainRows_rows hp]
    intro n hn
    split at hn
    · obtain rfl := Option.some.inj hn
      exact Nat.lt_add_of_pos_right (by decide)
    · cases hn
  rw [ofDraft?, hdata]
  simp only [drafted, Option.bind_eq_bind, Option.bind_some, Zlib.decompress?_compress hmore,
    rows?_plainRows hp]
  simp

theorem inspect_toBytes (hp : p.Writable) : inspect p.toBytes = .image p := by
  have hsignature : signature.isPrefixOf p.toBytes := by
    rw [toBytes_eq hp]
    exact List.isPrefixOf_iff_prefix.mpr (List.prefix_append _ _)
  rw [inspect, if_pos hsignature, read?, draft?_toBytes .inspect hp, Option.bind_some,
    ofDraft?_drafted .inspect hp]

theorem decode?_toBytes (hp : p.Writable) : decode? none p.toBytes = p.toPixmap? := by
  have hheader : p.drafted.header = some p.header := rfl
  rw [decode?, draft?_toBytes .decode hp]
  simp only [Option.bind_eq_bind, Option.bind_some, hheader, ofDraft?_drafted .decode hp]
  rfl

end Png

end PaletteSnap
