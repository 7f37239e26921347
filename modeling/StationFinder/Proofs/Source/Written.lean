import StationFinder.Proofs.Json.Structures
import StationFinder.Proofs.Outcome
import StationFinder.Source.Reply

/-!
# Proofs/Source/Written — records and listings are read back from their own text

Every record, answer and listing is read back from the text that is written of it, whatever its
texts hold.  A record loses nothing, since its fields are strings and stand in ascending order
already (`Station.ofMembers_written`); an id is checked again when it is read, and every id passes.
So reading a record and writing it again brings its text into a form that stays as it is
(`written_values_are_read_back`).
-/

namespace StationFinder

open Json

variable {kind : AreaKind} {depth : Nat}

/-! ## Records -/

namespace Station

/-- The members that are written of a record make up the record. -/
theorem ofMembers_written (station : Station) :
    ofMembers (station.fields.entries.map fun field => (field.1, Json.string field.2))
      = station := by
  obtain ⟨es, hes⟩ := station
  have hascending : Entries.Ascending (es.map fun field => (field.1, Json.string field.2)) :=
    List.pairwise_map.mpr hes
  have hentries : (Entries.ofList (es.map fun field => (field.1, Json.string field.2))).filterMap
      (fun e => (fieldText? e.2).map fun text => (e.1, text)) = es := by
    rw [hascending.ofList_eq, List.filterMap_map]
    exact List.filterMap_some
  rw [ofMembers, Station.mk.injEq, Table.filterMap, Table.mk.injEq]
  exact hentries

theorem readsBack (station : Station) :
    ReadsBack (decoder (depth + 1)) station.toJson station := by
  have hmembers : ReadsBack (readMembers (depth + 1)) station.toJson
      (station.fields.entries.map fun field => (field.1, Json.string field.2)) :=
    readMembers_object (List.forall_mem_map.mpr fun field _ => readAny_string depth field.2)
  have hrecord := hmembers.map ofMembers
  rwa [ofMembers_written] at hrecord

end Station

theorem StationsReply.readsBack (reply : StationsReply) :
    ReadsBack (decoder (depth + 3)) reply.toJson reply := by
  obtain ⟨stations, result⟩ := reply
  have hstations : ReadsBack (readList Station.decoder (depth + 2))
      (.array (stations.map Station.toJson)) stations :=
    readList_array fun station _ => station.readsBack
  have hkeys : stationsKey ≠ resultKey := by decide
  have hfinish : shape.finish (some stations, some result) = .ok ⟨stations, result⟩ := rfl
  exact readsBack_structure
    (fills_two hkeys rfl rfl hstations.reads (readString?_ofText? result).reads) hfinish

/-! ## Areas and listings -/

theorem AreaId.readsBack (id : AreaId kind) : ReadsBack (decoder depth) id.toJson id := by
  obtain ⟨hreads, hbegins⟩ := readString_string id.text
  refine ⟨fun rest hends => ?_, hbegins⟩
  obtain ⟨hlt, heq⟩ := hreads rest hends
  refine ⟨hlt, ?_⟩
  have hread : readString (id.toJson.write ++ rest) = .ok ⟨id.text, rest, hlt⟩ := heq
  simp only [decoder, hread, bind, Except.bind, parse_text]
  rfl

theorem Area.readsBack (area : Area kind) :
    ReadsBack (decoder (depth + 1)) area.toJson area :=
  readsBack_pairOf (by decide) area.id.readsBack (readString_string area.name)

theorem ListingEntry.readsBack (entry : ListingEntry kind) :
    ReadsBack (decoder (depth + 1)) entry.toJson entry := by
  have hkeys : idKey kind ≠ nameKey kind := by cases kind <;> decide
  exact readsBack_pairOf hkeys (readString_string entry.id) (readString_string entry.name)

/-! ## Whole texts -/

theorem Station.decode_text (station : Station) :
    decode decoder station.toJson.text = .ok station :=
  Json.decode_text station.readsBack

/-- **What is written is read back**: every record, every answer about stations, and every list of
areas or of entries of a listing.  So a text that is taken for a record says the same as the text
that is written of the record, and this one stays as it is from then on. -/
theorem written_values_are_read_back :
    (∀ station : Station, decode Station.decoder station.toJson.text = .ok station)
      ∧ (∀ reply : StationsReply, decode StationsReply.decoder reply.toJson.text = .ok reply)
      ∧ (∀ (kind : AreaKind) (areas : List (Area kind)),
        decode (readList Area.decoder) (Json.array (areas.map Area.toJson)).text = .ok areas)
      ∧ (∀ (kind : AreaKind) (listing : Listing kind),
        decode Listing.decoder (Json.array (listing.map ListingEntry.toJson)).text = .ok listing)
      ∧ ∀ text station, decode Station.decoder text = .ok station →
        decode Station.decoder station.toJson.text = .ok station
          ∧ ∀ again, decode Station.decoder station.toJson.text = .ok again →
            again.toJson.text = station.toJson.text := by
  refine ⟨Station.decode_text, fun reply => Json.decode_text reply.readsBack,
    fun kind areas => Json.decode_text (readList_array fun area _ => area.readsBack),
    fun kind listing => Json.decode_text (readList_array fun entry _ => entry.readsBack),
    fun text station _ => ⟨station.decode_text, fun again hagain => ?_⟩⟩
  rw [Except.ok.inj (station.decode_text.symm.trans hagain)]

/-- A text with blanks, a repeated field and a value that is no string comes into its form. -/
theorem loose_text_is_read_back :
    let text := "\x7b\"b\":\"1\", \"c\":[true , null],\"a\":\"\\u0001\\/\\\"\",\"b\":null,"
      ++ "\"\":\"\"\x7d"
    let station := Station.ofFields [("", ""), ("a", "\x01/\""), ("c", "[true,null]")]
    decode Station.decoder text = .ok station
      ∧ decode Station.decoder station.toJson.text = .ok station
      ∧ station.toJson.text
        = "\x7b\"\":\"\",\"a\":\"\\u0001/\\\"\",\"c\":\"[true,null]\"\x7d" := by
  intro text station
  have hread : (decode Station.decoder text).toOption = some station := by decide +kernel
  obtain ⟨-, -, -, -, hnormal⟩ := written_values_are_read_back
  obtain ⟨hagain, -⟩ := hnormal text station (toOption_eq_some_iff.mp hread)
  exact ⟨toOption_eq_some_iff.mp hread, hagain, by decide +kernel⟩

end StationFinder
