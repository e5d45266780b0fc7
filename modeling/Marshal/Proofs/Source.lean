import Marshal.Command.Run
import Marshal.Proofs.Catalog.Document
import Marshal.Proofs.Report

/-!
# Documents stand for catalogs

The document of a catalog holds all of it: read as a value, as a text or from a file, it is that
catalog again, and so is any other document that describes it. What is generated from the document
is what is generated from the file that the catalog came from. Texts and files are read by every
reader that goes as deep as the document is nested.
-/

namespace Marshal
set_option autoImplicit false

open Text (Plain)

namespace Text

theorem toList_loop (bs : ByteArray) (i : Nat) (taken : List UInt8) :
    ByteArray.toList.loop bs i taken = taken.reverse ++ bs.data.toList.drop i := by
  -- by induction on the number of bytes that are left
  induction hleft : bs.size - i generalizing i taken with
  | zero =>
    have hi : bs.size ≤ i := Nat.le_of_sub_eq_zero hleft
    have hdrop : bs.data.toList.drop i = [] := List.drop_eq_nil_of_le hi
    rw [ByteArray.toList.loop, if_neg (Nat.not_lt.mpr hi), hdrop, List.append_nil]
  | succ left ih =>
    have hi : i < bs.size := Nat.lt_of_sub_eq_succ hleft
    have hdrop : bs.data.toList.drop i = bs.get! i :: bs.data.toList.drop (i + 1) := by
      have hget : bs.get! i = bs.data.toList[i] := getElem!_pos bs.data i hi
      rw [hget]
      exact List.drop_eq_getElem_cons hi
    rw [ByteArray.toList.loop, if_pos hi, ih _ _ (by omega), hdrop, List.reverse_cons,
      List.append_assoc]
    rfl

theorem utf8EncodeChar_plain {c : Char} (h : Plain c) :
    (String.utf8EncodeChar c).map UInt8.toNat = [c.toNat] := by
  have hc := h.toNat_lt
  have hsize : c.utf8Size = 1 := Char.utf8Size_eq_one_iff.mpr (Nat.le_of_lt_succ hc)
  rw [String.utf8EncodeChar_eq_singleton hsize, List.map_singleton, UInt32.toNat_toUInt8]
  exact congrArg (fun n => [n]) (Nat.mod_eq_of_lt (Nat.lt_trans hc (by decide : 0x80 < 2 ^ 8)))

theorem encodeUtf8_plain {text : String} (h : ∀ c ∈ text.toList, Plain c) :
    encodeUtf8 text = text.toList.map Char.toNat := by
  have hencoded : text.toUTF8.toList = text.toList.flatMap String.utf8EncodeChar := by
    have hbytes : text.toUTF8 = text.toList.utf8Encode := String.utf8Encode_toList.symm
    rw [hbytes, ByteArray.toList, toList_loop, List.utf8Encode, List.data_toByteArray]
    rfl
  have heach : ∀ cs : List Char, (∀ c ∈ cs, Plain c) →
      (cs.flatMap String.utf8EncodeChar).map UInt8.toNat = cs.map Char.toNat := by
    intro cs hcs
    induction cs with
    | nil => rfl
    | cons c cs ih =>
      obtain ⟨hc, hcs⟩ := List.forall_mem_cons.mp hcs
      rw [List.flatMap_cons, List.map_append, utf8EncodeChar_plain hc, ih hcs]
      rfl
  rw [encodeUtf8, hencoded, heach _ h]

end Text

namespace Source

open Document (ofCatalog catalogOf Describes)

variable {c : Catalog}

theorem catalogOf_ofCatalog (c : Catalog) : catalogOf (ofCatalog c) = .ok (some c) :=
  Document.catalogOf_of_describes (Document.describes_ofCatalog c)

theorem parseDocument_print {depth : Nat} (hd : (ofCatalog c).nesting ≤ depth) :
    parseDocument depth (ofCatalog c).print = .ok c := by
  rw [parseDocument, Json.parse_print (Document.textual_ofCatalog c) hd]
  simp only [catalogOf_ofCatalog]

/-- A plain text is read from a file as it was written there. -/
theorem load_encodeUtf8 (depth : Nat) (path : String) {text : String}
    (h : ∀ c ∈ text.toList, Plain c) :
    load depth path (Text.encodeUtf8 text) = parse depth path text := by
  rw [load, Text.encodeUtf8_plain h, Text.decodeUtf8_plain h]
  simp only [Text.normalizeNewlines_plain h, String.ofList_toList]

theorem load_document {depth : Nat} {path : String} (hpath : suffix (fileName path) = ".json")
    (hd : (ofCatalog c).nesting ≤ depth) :
    (load depth path (Text.encodeUtf8 (ofCatalog c).print)).outcome = .ok c := by
  rw [load_encodeUtf8 depth path (Document.textual_ofCatalog c).plain, parse, hpath]
  exact parseDocument_print hd

theorem found_of_load {host : Command.Host} {path : String} {bytes : List Nat}
    (h : (load host.depth path bytes).outcome = .ok c) :
    (Command.load host path (.ok bytes)).outcome = .ok (.catalog c) := by
  have hmap : (Command.Loaded.catalog <$> load host.depth path bytes).outcome =
      .ok (.catalog c) := by
    rw [map_eq_pure_bind, Report.outcome_bind, h]
    rfl
  simp only [Command.load, Report.rescue, hmap]

/-- What is generated from a file depends on the catalog in it only. -/
theorem plan_of_load {host : Command.Host} {path path' : String} {bytes bytes' : List Nat}
    (h : (load host.depth path bytes).outcome = .ok c)
    (h' : (load host.depth path' bytes').outcome = .ok c)
    (output : Option String) (options : Options) :
    ((Command.Task.generate path output options).plan host (.ok bytes)).outcome =
      ((Command.Task.generate path' output options).plan host (.ok bytes')).outcome := by
  simp only [Command.Task.plan, Report.outcome_bind, found_of_load h, found_of_load h']

/-- What makes documents a faithful encoding of a catalog. -/
structure Faithful (c : Catalog) : Prop where
  /-- The document of the catalog describes it, with every key present. -/
  complete : Describes true (ofCatalog c) c
  /-- The document of the catalog is read as the catalog. -/
  decoded : catalogOf (ofCatalog c) = .ok (some c)
  /-- Whatever describes the catalog is read as the catalog. -/
  described : ∀ complete j, Describes complete j c → catalogOf j = .ok (some c)
  /-- Whatever is read as the catalog can be replaced by its document. -/
  normal : ∀ j, catalogOf j = .ok (some c) → catalogOf (ofCatalog c) = catalogOf j
  /-- The printed document is read by every reader that goes deep enough. -/
  printed : ∀ depth fuel, (ofCatalog c).nesting ≤ depth → (ofCatalog c).chars.length ≤ fuel →
    Json.value depth fuel (ofCatalog c).print.toList = .ok (ofCatalog c, [])
  /-- The printed document is parsed as the catalog. -/
  parsed : ∀ depth, (ofCatalog c).nesting ≤ depth →
    parseDocument depth (ofCatalog c).print = .ok c
  /-- A file of the printed document can replace any file with the catalog. -/
  generated : ∀ host : Command.Host, (ofCatalog c).nesting ≤ host.depth →
    ∀ path path' bytes output options, (load host.depth path bytes).outcome = .ok c →
      suffix (fileName path') = ".json" →
        ((Command.Task.generate path' output options).plan host
            (.ok (Text.encodeUtf8 (ofCatalog c).print))).outcome =
          ((Command.Task.generate path output options).plan host (.ok bytes)).outcome

/-- Documents are a faithful encoding of every catalog. -/
theorem documents_faithful (c : Catalog) : Faithful c where
  complete := Document.describes_ofCatalog c
  decoded := catalogOf_ofCatalog c
  described := fun _ _ h => Document.catalogOf_of_describes h
  normal := fun _ h => (catalogOf_ofCatalog c).trans h.symm
  printed := fun depth fuel hd hf => by
    have hread := (Document.textual_ofCatalog c).readBack depth fuel [] hd hf
    rwa [List.append_nil] at hread
  parsed := fun _ hd => parseDocument_print hd
  generated := fun _ hd _ _ _ output options hload hpath =>
    plan_of_load (load_document hpath hd) hload output options

def boxes : String := "module M { datatype Box = Box(a: seq<map<nat, T>>) }"

def boxesCatalog : Catalog :=
  ⟨[⟨"M", "Box", [⟨"Box", [⟨"a", .seq (.map (.int "nat") (.foreign "T"))⟩]⟩], []⟩], []⟩

/-- A document of the boxes with a key too many, keys in another order and lists left out. -/
def looseBoxes : Json :=
  .obj [("note", .str "boxes"), ("definitions", .arr [.obj [
    ("variants", .arr [.obj [
      ("fields", .arr [.obj [
        ("type", .obj [
          ("type_args", .arr [.obj [("name", .str "map"), ("kind", .str "map"),
            ("type_args", .arr [.obj [("kind", .str "int"), ("name", .str "nat")],
              .obj [("kind", .str "opaque"), ("name", .str "T")]])]]),
          ("kind", .str "seq"), ("name", .str "seq")]),
        ("name", .str "a")]]),
      ("name", .str "Box")]]),
    ("name", .str "Box"), ("module_name", .str "M")]])]

theorem documents_faithful_boxes :
    (load 20 "boxes.adt" (Text.encodeUtf8 boxes)).outcome = .ok boxesCatalog ∧
      catalogOf looseBoxes = .ok (some boxesCatalog) ∧
      catalogOf (ofCatalog boxesCatalog) = catalogOf looseBoxes ∧
      (ofCatalog boxesCatalog).nesting ≤ 20 ∧
      parseDocument 20 (ofCatalog boxesCatalog).print = .ok boxesCatalog ∧
      ((Command.Task.generate "boxes.json" none {}).plan (.plain 20 false)
          (.ok (Text.encodeUtf8 (ofCatalog boxesCatalog).print))).outcome =
        ((Command.Task.generate "boxes.adt" none {}).plan (.plain 20 false)
          (.ok (Text.encodeUtf8 boxes))).outcome := by
  have hparse : (Declaration.parse boxes).outcome = .ok boxesCatalog := by decide +kernel
  have hfile : (load 20 "boxes.adt" (Text.encodeUtf8 boxes)).outcome = .ok boxesCatalog := by
    rw [load_encodeUtf8 _ _ (Text.plain_of_all (by decide +kernel)), parse,
      if_neg (by decide +kernel)]
    exact Report.mapError_outcome_eq_ok.mpr hparse
  have hloose : catalogOf looseBoxes = .ok (some boxesCatalog) := rfl
  have hdepth : (ofCatalog boxesCatalog).nesting ≤ 20 := by decide
  have hfaithful := documents_faithful boxesCatalog
  exact ⟨hfile, hloose, hfaithful.normal looseBoxes hloose, hdepth, hfaithful.parsed 20 hdepth,
    hfaithful.generated (.plain 20 false) hdepth "boxes.adt" "boxes.json" _ none {} hfile
      (by decide +kernel)⟩

end Source

end Marshal
