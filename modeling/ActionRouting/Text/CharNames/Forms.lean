import ActionRouting.Text.CharName

/-! The names of presentation forms, and of wide and narrow forms. -/
namespace ActionRouting.Text.CharName

/-- The names of presentation forms, and of wide and narrow forms. -/
def forms : List NameRun := [
  ⟨0xFB00, ["aLATIN SMALL LIGATURE FFdFIdFLdFFIdFFLdLONG S TdST"]⟩,
  ⟨0xFB13, ["aARMENIAN SMALL LIGATURE MEN NOWeECHeINIdVEW NOWdMEN XEH"]⟩,
  ⟨0xFB1D, [
    "aHEBREW LETTER YOD WITH HIRIQbPOINT JUDEO-SPANISH VARIKAbLIGATURE YIDDISH YOD YOD PATAHb",
    "LETTER ALTERNATIVE AYINcWIDE ALEFdDALETdHEdKAFdLAMEDdFINAL MEMdRESHdTAVcALTERNATIVE PLUS ",
    "SIGNcSHIN WITH SHIN DOTeSIN DOTeDAGESH AND SHIN DOTgSIN DOTcALEF WITH PATAHeQAMATSeMAPIQc",
    "BET WITH DAGESHcGIMEL WITH DAGESHcDALET WITH DAGESHcHE WITH MAPIQcVAV WITH DAGESHcZAYIN ",
    "WITH DAGESH"]⟩,
  ⟨0xFB38, [
    "aHEBREW LETTER TET WITH DAGESHcYOD WITH DAGESHcFINAL KAF WITH DAGESHcKAF WITH DAGESHcLAMED",
    " WITH DAGESH"]⟩,
  ⟨0xFB3E, ["aHEBREW LETTER MEM WITH DAGESH"]⟩,
  ⟨0xFB40, ["aHEBREW LETTER NUN WITH DAGESHcSAMEKH WITH DAGESH"]⟩,
  ⟨0xFB43, ["aHEBREW LETTER FINAL PE WITH DAGESHcPE WITH DAGESH"]⟩,
  ⟨0xFB46, [
    "aHEBREW LETTER TSADI WITH DAGESHcQOF WITH DAGESHcRESH WITH DAGESHcSHIN WITH DAGESHcTAV ",
    "WITH DAGESHcVAV WITH HOLAMcBET WITH RAFEcKAF WITH RAFEcPE WITH RAFEbLIGATURE ALEF LAMEDa",
    "ARABIC LETTER ALEF WASLA ISOLATED FORMeFINAL FORMcBEEH ISOLATED FORMdFINAL FORMdINITIAL ",
    "FORMdMEDIAL FORMcPEH ISOLATED FORMdFINAL FORMdINITIAL FORMdMEDIAL FORMcBEHEH ISOLATED FORM",
    "dFINAL FORMdINITIAL FORMdMEDIAL FORMcTTEHEH ISOLATED FORMdFINAL FORMdINITIAL FORMdMEDIAL ",
    "FORMcTEHEH ISOLATED FORMdFINAL FORMdINITIAL FORMdMEDIAL FORMcTTEH ISOLATED FORMdFINAL FORM",
    "dINITIAL FORMdMEDIAL FORMcVEH ISOLATED FORMdFINAL FORMdINITIAL FORMdMEDIAL FORMcPEHEH ",
    "ISOLATED FORMdFINAL FORMdINITIAL FORMdMEDIAL FORMcDYEH ISOLATED FORMdFINAL FORMdINITIAL ",
    "FORMdMEDIAL FORMcNYEH ISOLATED FORMdFINAL FORMdINITIAL FORMdMEDIAL FORMcTCHEH ISOLATED ",
    "FORMdFINAL FORMdINITIAL FORMdMEDIAL FORMcTCHEHEH ISOLATED FORMdFINAL FORMdINITIAL FORMd",
    "MEDIAL FORMcDDAHAL ISOLATED FORMdFINAL FORMcDAHAL ISOLATED FORMdFINAL FORMcDUL ISOLATED ",
    "FORMdFINAL FORMcDDAL ISOLATED FORMdFINAL FORMcJEH ISOLATED FORMdFINAL FORMcRREH ISOLATED ",
    "FORMdFINAL FORMcKEHEH ISOLATED FORMdFINAL FORMdINITIAL FORMdMEDIAL FORMcGAF ISOLATED FORMd",
    "FINAL FORMdINITIAL FORMdMEDIAL FORMcGUEH ISOLATED FORMdFINAL FORMdINITIAL FORMdMEDIAL FORM",
    "cNGOEH ISOLATED FORMdFINAL FORMdINITIAL FORMdMEDIAL FORMcNOON GHUNNA ISOLATED FORMeFINAL ",
    "FORMcRNOON ISOLATED FORMdFINAL FORMdINITIAL FORMdMEDIAL FORMcHEH WITH YEH ABOVE ISOLATED ",
    "FORMgFINAL FORMdGOAL ISOLATED FORMeFINAL FORMeINITIAL FORMeMEDIAL FORMdDOACHASHMEE ",
    "ISOLATED FORMeFINAL FORMeINITIAL FORMeMEDIAL FORMcYEH BARREE ISOLATED FORMeFINAL FORMeWITH",
    " HAMZA ABOVE ISOLATED FORMhFINAL FORMbSYMBOL DOT ABOVEdBELOWcTWO DOTS ABOVEeBELOWcTHREE ",
    "DOTS ABOVEeBELOWePOINTING DOWNWARDS ABOVEgBELOWcFOUR DOTS ABOVEeBELOWcDOUBLE VERTICAL BAR ",
    "BELOWcTWO DOTS VERTICALLY ABOVEfBELOWcRINGcSMALL TAH ABOVEeBELOWcWASLA ABOVE"]⟩,
  ⟨0xFBD3, [
    "aARABIC LETTER NG ISOLATED FORMdFINAL FORMdINITIAL FORMdMEDIAL FORMcU ISOLATED FORMdFINAL ",
    "FORMcOE ISOLATED FORMdFINAL FORMcYU ISOLATED FORMdFINAL FORMcU WITH HAMZA ABOVE ISOLATED ",
    "FORMcVE ISOLATED FORMdFINAL FORMcKIRGHIZ OE ISOLATED FORMeFINAL FORMdYU ISOLATED FORMe",
    "FINAL FORMcE ISOLATED FORMdFINAL FORMdINITIAL FORMdMEDIAL FORMcUIGHUR KAZAKH KIRGHIZ ALEF ",
    "MAKSURA INITIAL FORMhMEDIAL FORMbLIGATURE YEH WITH HAMZA ABOVE WITH ALEF ISOLATED FORMi",
    "FINAL FORMhAE ISOLATED FORMiFINAL FORMhWAW ISOLATED FORMiFINAL FORMhU ISOLATED FORMiFINAL ",
    "FORMhOE ISOLATED FORMiFINAL FORMhYU ISOLATED FORMiFINAL FORMhE ISOLATED FORMiFINAL FORMi",
    "INITIAL FORMcUIGHUR KIRGHIZ YEH WITH HAMZA ABOVE WITH ALEF MAKSURA ISOLATED FORMlFINAL ",
    "FORMlINITIAL FORMbLETTER FARSI YEH ISOLATED FORMeFINAL FORMeINITIAL FORMeMEDIAL FORMb",
    "LIGATURE YEH WITH HAMZA ABOVE WITH JEEM ISOLATED FORMhHAH ISOLATED FORMhMEEM ISOLATED FORM",
    "hALEF MAKSURA ISOLATED FORMhYEH ISOLATED FORMcBEH WITH JEEM ISOLATED FORMeHAH ISOLATED ",
    "FORMeKHAH ISOLATED FORMeMEEM ISOLATED FORMeALEF MAKSURA ISOLATED FORMeYEH ISOLATED FORMc",
    "TEH WITH JEEM ISOLATED FORMeHAH ISOLATED FORMeKHAH ISOLATED FORMeMEEM ISOLATED FORMeALEF ",
    "MAKSURA ISOLATED FORMeYEH ISOLATED FORMcTHEH WITH JEEM ISOLATED FORMeMEEM ISOLATED FORMe",
    "ALEF MAKSURA ISOLATED FORMeYEH ISOLATED FORMcJEEM WITH HAH ISOLATED FORMeMEEM ISOLATED ",
    "FORMcHAH WITH JEEM ISOLATED FORMeMEEM ISOLATED FORMcKHAH WITH JEEM ISOLATED FORMeHAH ",
    "ISOLATED FORMeMEEM ISOLATED FORMcSEEN WITH JEEM ISOLATED FORMeHAH ISOLATED FORMeKHAH ",
    "ISOLATED FORMeMEEM ISOLATED FORMcSAD WITH HAH ISOLATED FORMeMEEM ISOLATED FORMcDAD WITH ",
    "JEEM ISOLATED FORMeHAH ISOLATED FORMeKHAH ISOLATED FORMeMEEM ISOLATED FORMcTAH WITH HAH ",
    "ISOLATED FORMeMEEM ISOLATED FORMcZAH WITH MEEM ISOLATED FORMcAIN WITH JEEM ISOLATED FORMe",
    "MEEM ISOLATED FORMcGHAIN WITH JEEM ISOLATED FORMeMEEM ISOLATED FORMcFEH WITH JEEM ISOLATED",
    " FORMeHAH ISOLATED FORMeKHAH ISOLATED FORMeMEEM ISOLATED FORMeALEF MAKSURA ISOLATED FORMe",
    "YEH ISOLATED FORMcQAF WITH HAH ISOLATED FORMeMEEM ISOLATED FORMeALEF MAKSURA ISOLATED FORM",
    "eYEH ISOLATED FORMcKAF WITH ALEF ISOLATED FORMeJEEM ISOLATED FORMeHAH ISOLATED FORMeKHAH ",
    "ISOLATED FORMeLAM ISOLATED FORMeMEEM ISOLATED FORMeALEF MAKSURA ISOLATED FORMeYEH ISOLATED",
    " FORMcLAM WITH JEEM ISOLATED FORMeHAH ISOLATED FORMeKHAH ISOLATED FORMeMEEM ISOLATED FORMe",
    "ALEF MAKSURA ISOLATED FORMeYEH ISOLATED FORMcMEEM WITH JEEM ISOLATED FORMeHAH ISOLATED ",
    "FORMeKHAH ISOLATED FORMeMEEM ISOLATED FORMeALEF MAKSURA ISOLATED FORMeYEH ISOLATED FORMc",
    "NOON WITH JEEM ISOLATED FORMeHAH ISOLATED FORMeKHAH ISOLATED FORMeMEEM ISOLATED FORMeALEF ",
    "MAKSURA ISOLATED FORMeYEH ISOLATED FORMcHEH WITH JEEM ISOLATED FORMeMEEM ISOLATED FORMe",
    "ALEF MAKSURA ISOLATED FORMeYEH ISOLATED FORMcYEH WITH JEEM ISOLATED FORMeHAH ISOLATED FORM",
    "eKHAH ISOLATED FORMeMEEM ISOLATED FORMeALEF MAKSURA ISOLATED FORMeYEH ISOLATED FORMcTHAL ",
    "WITH SUPERSCRIPT ALEF ISOLATED FORMcREH WITH SUPERSCRIPT ALEF ISOLATED FORMcALEF MAKSURA ",
    "WITH SUPERSCRIPT ALEF ISOLATED FORMcSHADDA WITH DAMMATAN ISOLATED FORMeKASRATAN ISOLATED ",
    "FORMeFATHA ISOLATED FORMeDAMMA ISOLATED FORMeKASRA ISOLATED FORMeSUPERSCRIPT ALEF ISOLATED",
    " FORMcYEH WITH HAMZA ABOVE WITH REH FINAL FORMhZAIN FINAL FORMhMEEM FINAL FORMhNOON FINAL ",
    "FORMhALEF MAKSURA FINAL FORMhYEH FINAL FORMcBEH WITH REH FINAL FORMeZAIN FINAL FORMeMEEM ",
    "FINAL FORMeNOON FINAL FORMeALEF MAKSURA FINAL FORMeYEH FINAL FORMcTEH WITH REH FINAL FORMe",
    "ZAIN FINAL FORMeMEEM FINAL FORMeNOON FINAL FORMeALEF MAKSURA FINAL FORMeYEH FINAL FORMc",
    "THEH WITH REH FINAL FORMeZAIN FINAL FORMeMEEM FINAL FORMeNOON FINAL FORMeALEF MAKSURA ",
    "FINAL FORMeYEH FINAL FORMcFEH WITH ALEF MAKSURA FINAL FORMeYEH FINAL FORMcQAF WITH ALEF ",
    "MAKSURA FINAL FORMeYEH FINAL FORMcKAF WITH ALEF FINAL FORMeLAM FINAL FORMeMEEM FINAL FORMe",
    "ALEF MAKSURA FINAL FORMeYEH FINAL FORMcLAM WITH MEEM FINAL FORMeALEF MAKSURA FINAL FORMe",
    "YEH FINAL FORMcMEEM WITH ALEF FINAL FORMeMEEM FINAL FORMcNOON WITH REH FINAL FORMeZAIN ",
    "FINAL FORMeMEEM FINAL FORMeNOON FINAL FORMeALEF MAKSURA FINAL FORMeYEH FINAL FORMcALEF ",
    "MAKSURA WITH SUPERSCRIPT ALEF FINAL FORMcYEH WITH REH FINAL FORMeZAIN FINAL FORMeMEEM ",
    "FINAL FORMeNOON FINAL FORMeALEF MAKSURA FINAL FORMeYEH FINAL FORMeHAMZA ABOVE WITH JEEM ",
    "INITIAL FORMhHAH INITIAL FORMhKHAH INITIAL FORMhMEEM INITIAL FORMhHEH INITIAL FORMcBEH ",
    "WITH JEEM INITIAL FORMeHAH INITIAL FORMeKHAH INITIAL FORMeMEEM INITIAL FORMeHEH INITIAL ",
    "FORMcTEH WITH JEEM INITIAL FORMeHAH INITIAL FORMeKHAH INITIAL FORMeMEEM INITIAL FORMeHEH ",
    "INITIAL FORMcTHEH WITH MEEM INITIAL FORMcJEEM WITH HAH INITIAL FORMeMEEM INITIAL FORMcHAH ",
    "WITH JEEM INITIAL FORMeMEEM INITIAL FORMcKHAH WITH JEEM INITIAL FORMeMEEM INITIAL FORMc",
    "SEEN WITH JEEM INITIAL FORMeHAH INITIAL FORMeKHAH INITIAL FORMeMEEM INITIAL FORMcSAD WITH ",
    "HAH INITIAL FORMeKHAH INITIAL FORMeMEEM INITIAL FORMcDAD WITH JEEM INITIAL FORMeHAH ",
    "INITIAL FORMeKHAH INITIAL FORMeMEEM INITIAL FORMcTAH WITH HAH INITIAL FORMcZAH WITH MEEM ",
    "INITIAL FORMcAIN WITH JEEM INITIAL FORMeMEEM INITIAL FORMcGHAIN WITH JEEM INITIAL FORMe",
    "MEEM INITIAL FORMcFEH WITH JEEM INITIAL FORMeHAH INITIAL FORMeKHAH INITIAL FORMeMEEM ",
    "INITIAL FORMcQAF WITH HAH INITIAL FORMeMEEM INITIAL FORMcKAF WITH JEEM INITIAL FORMeHAH ",
    "INITIAL FORMeKHAH INITIAL FORMeLAM INITIAL FORMeMEEM INITIAL FORMcLAM WITH JEEM INITIAL ",
    "FORMeHAH INITIAL FORMeKHAH INITIAL FORMeMEEM INITIAL FORMeHEH INITIAL FORMcMEEM WITH JEEM ",
    "INITIAL FORMeHAH INITIAL FORMeKHAH INITIAL FORMeMEEM INITIAL FORMcNOON WITH JEEM INITIAL ",
    "FORMeHAH INITIAL FORMeKHAH INITIAL FORMeMEEM INITIAL FORMeHEH INITIAL FORMcHEH WITH JEEM ",
    "INITIAL FORMeMEEM INITIAL FORMeSUPERSCRIPT ALEF INITIAL FORMcYEH WITH JEEM INITIAL FORMe",
    "HAH INITIAL FORMeKHAH INITIAL FORMeMEEM INITIAL FORMeHEH INITIAL FORMeHAMZA ABOVE WITH ",
    "MEEM MEDIAL FORMhHEH MEDIAL FORMcBEH WITH MEEM MEDIAL FORMeHEH MEDIAL FORMcTEH WITH MEEM ",
    "MEDIAL FORMeHEH MEDIAL FORMcTHEH WITH MEEM MEDIAL FORMeHEH MEDIAL FORMcSEEN WITH MEEM ",
    "MEDIAL FORMeHEH MEDIAL FORMcSHEEN WITH MEEM MEDIAL FORMeHEH MEDIAL FORMcKAF WITH LAM ",
    "MEDIAL FORMeMEEM MEDIAL FORMcLAM WITH MEEM MEDIAL FORMcNOON WITH MEEM MEDIAL FORMeHEH ",
    "MEDIAL FORMcYEH WITH MEEM MEDIAL FORMeHEH MEDIAL FORMcSHADDA WITH FATHA MEDIAL FORMeDAMMA ",
    "MEDIAL FORMeKASRA MEDIAL FORMcTAH WITH ALEF MAKSURA ISOLATED FORMeYEH ISOLATED FORMcAIN ",
    "WITH ALEF MAKSURA ISOLATED FORMeYEH ISOLATED FORMcGHAIN WITH ALEF MAKSURA ISOLATED FORMe",
    "YEH ISOLATED FORMcSEEN WITH ALEF MAKSURA ISOLATED FORMeYEH ISOLATED FORMcSHEEN WITH ALEF ",
    "MAKSURA ISOLATED FORMeYEH ISOLATED FORMcHAH WITH ALEF MAKSURA ISOLATED FORMeYEH ISOLATED ",
    "FORMcJEEM WITH ALEF MAKSURA ISOLATED FORMeYEH ISOLATED FORMcKHAH WITH ALEF MAKSURA ",
    "ISOLATED FORMeYEH ISOLATED FORMcSAD WITH ALEF MAKSURA ISOLATED FORMeYEH ISOLATED FORMcDAD ",
    "WITH ALEF MAKSURA ISOLATED FORMeYEH ISOLATED FORMcSHEEN WITH JEEM ISOLATED FORMeHAH ",
    "ISOLATED FORMeKHAH ISOLATED FORMeMEEM ISOLATED FORMeREH ISOLATED FORMcSEEN WITH REH ",
    "ISOLATED FORMcSAD WITH REH ISOLATED FORMcDAD WITH REH ISOLATED FORMcTAH WITH ALEF MAKSURA ",
    "FINAL FORMeYEH FINAL FORMcAIN WITH ALEF MAKSURA FINAL FORMeYEH FINAL FORMcGHAIN WITH ALEF ",
    "MAKSURA FINAL FORMeYEH FINAL FORMcSEEN WITH ALEF MAKSURA FINAL FORMeYEH FINAL FORMcSHEEN ",
    "WITH ALEF MAKSURA FINAL FORMeYEH FINAL FORMcHAH WITH ALEF MAKSURA FINAL FORMeYEH FINAL ",
    "FORMcJEEM WITH ALEF MAKSURA FINAL FORMeYEH FINAL FORMcKHAH WITH ALEF MAKSURA FINAL FORMe",
    "YEH FINAL FORMcSAD WITH ALEF MAKSURA FINAL FORMeYEH FINAL FORMcDAD WITH ALEF MAKSURA FINAL",
    " FORMeYEH FINAL FORMcSHEEN WITH JEEM FINAL FORMeHAH FINAL FORMeKHAH FINAL FORMeMEEM FINAL ",
    "FORMeREH FINAL FORMcSEEN WITH REH FINAL FORMcSAD WITH REH FINAL FORMcDAD WITH REH FINAL ",
    "FORMcSHEEN WITH JEEM INITIAL FORMeHAH INITIAL FORMeKHAH INITIAL FORMeMEEM INITIAL FORMc",
    "SEEN WITH HEH INITIAL FORMcSHEEN WITH HEH INITIAL FORMcTAH WITH MEEM INITIAL FORMcSEEN ",
    "WITH JEEM MEDIAL FORMeHAH MEDIAL FORMeKHAH MEDIAL FORMcSHEEN WITH JEEM MEDIAL FORMeHAH ",
    "MEDIAL FORMeKHAH MEDIAL FORMcTAH WITH MEEM MEDIAL FORMcZAH WITH MEEM MEDIAL FORMcALEF WITH",
    " FATHATAN FINAL FORMfISOLATED FORMaORNATE LEFT PARENTHESISbRIGHT PARENTHESISaARABIC ",
    "LIGATURE RAHIMAHU ALLAAHcRADI ALLAAHU ANHeANHAAeANHUMeANHUMAAeANHUNNAcSALLALLAAHU ALAYHI ",
    "WA-AALIHcALAYHI AS-SALAAMcALAYHIM AS-SALAAMcALAYHIMAA AS-SALAAMcALAYHI AS-SALAATU WAS-",
    "SALAAMcQUDDISA SIRRAHcSALLALLAHU ALAYHI WAAALIHEE WA-SALLAMcALAYHAA AS-SALAAMcTABAARAKA WA",
    "-TAAALAAcRAHIMAHUM ALLAAHcTEH WITH JEEM WITH MEEM INITIAL FORMeHAH WITH JEEM FINAL FORMh",
    "INITIAL FORMgMEEM INITIAL FORMeKHAH WITH MEEM INITIAL FORMeMEEM WITH JEEM INITIAL FORMgHAH",
    " INITIAL FORMgKHAH INITIAL FORMcJEEM WITH MEEM WITH HAH FINAL FORMhINITIAL FORMcHAH WITH ",
    "MEEM WITH YEH FINAL FORMgALEF MAKSURA FINAL FORMcSEEN WITH HAH WITH JEEM INITIAL FORMeJEEM",
    " WITH HAH INITIAL FORMgALEF MAKSURA FINAL FORMeMEEM WITH HAH FINAL FORMhINITIAL FORMgJEEM ",
    "INITIAL FORMgMEEM FINAL FORMhINITIAL FORMcSAD WITH HAH WITH HAH FINAL FORMhINITIAL FORMe",
    "MEEM WITH MEEM FINAL FORMcSHEEN WITH HAH WITH MEEM FINAL FORMhINITIAL FORMeJEEM WITH YEH ",
    "FINAL FORMeMEEM WITH KHAH FINAL FORMhINITIAL FORMgMEEM FINAL FORMhINITIAL FORMcDAD WITH ",
    "HAH WITH ALEF MAKSURA FINAL FORMeKHAH WITH MEEM FINAL FORMhINITIAL FORMcTAH WITH MEEM WITH",
    " HAH FINAL FORMhINITIAL FORMgMEEM INITIAL FORMgYEH FINAL FORMcAIN WITH JEEM WITH MEEM ",
    "FINAL FORMeMEEM WITH MEEM FINAL FORMhINITIAL FORMgALEF MAKSURA FINAL FORMcGHAIN WITH MEEM ",
    "WITH MEEM FINAL FORMgYEH FINAL FORMgALEF MAKSURA FINAL FORMcFEH WITH KHAH WITH MEEM FINAL ",
    "FORMhINITIAL FORMcQAF WITH MEEM WITH HAH FINAL FORMgMEEM FINAL FORMcLAM WITH HAH WITH MEEM",
    " FINAL FORMgYEH FINAL FORMgALEF MAKSURA FINAL FORMeJEEM WITH JEEM INITIAL FORMhFINAL FORMe",
    "KHAH WITH MEEM FINAL FORMhINITIAL FORMeMEEM WITH HAH FINAL FORMhINITIAL FORMcMEEM WITH HAH",
    " WITH JEEM INITIAL FORMgMEEM INITIAL FORMgYEH FINAL FORMeJEEM WITH HAH INITIAL FORMgMEEM ",
    "INITIAL FORMeKHAH WITH JEEM INITIAL FORMgMEEM INITIAL FORM"]⟩,
  ⟨0xFD92, [
    "aARABIC LIGATURE MEEM WITH JEEM WITH KHAH INITIAL FORMcHEH WITH MEEM WITH JEEM INITIAL ",
    "FORMgMEEM INITIAL FORMcNOON WITH HAH WITH MEEM INITIAL FORMgALEF MAKSURA FINAL FORMeJEEM ",
    "WITH MEEM FINAL FORMhINITIAL FORMgALEF MAKSURA FINAL FORMeMEEM WITH YEH FINAL FORMgALEF ",
    "MAKSURA FINAL FORMcYEH WITH MEEM WITH MEEM FINAL FORMhINITIAL FORMcBEH WITH KHAH WITH YEH ",
    "FINAL FORMcTEH WITH JEEM WITH YEH FINAL FORMgALEF MAKSURA FINAL FORMeKHAH WITH YEH FINAL ",
    "FORMgALEF MAKSURA FINAL FORMeMEEM WITH YEH FINAL FORMgALEF MAKSURA FINAL FORMcJEEM WITH ",
    "MEEM WITH YEH FINAL FORMeHAH WITH ALEF MAKSURA FINAL FORMeMEEM WITH ALEF MAKSURA FINAL ",
    "FORMcSEEN WITH KHAH WITH ALEF MAKSURA FINAL FORMcSAD WITH HAH WITH YEH FINAL FORMcSHEEN ",
    "WITH HAH WITH YEH FINAL FORMcDAD WITH HAH WITH YEH FINAL FORMcLAM WITH JEEM WITH YEH FINAL",
    " FORMeMEEM WITH YEH FINAL FORMcYEH WITH HAH WITH YEH FINAL FORMeJEEM WITH YEH FINAL FORMe",
    "MEEM WITH YEH FINAL FORMcMEEM WITH MEEM WITH YEH FINAL FORMcQAF WITH MEEM WITH YEH FINAL ",
    "FORMcNOON WITH HAH WITH YEH FINAL FORMcQAF WITH MEEM WITH HAH INITIAL FORMcLAM WITH HAH ",
    "WITH MEEM INITIAL FORMcAIN WITH MEEM WITH YEH FINAL FORMcKAF WITH MEEM WITH YEH FINAL FORM",
    "cNOON WITH JEEM WITH HAH INITIAL FORMcMEEM WITH KHAH WITH YEH FINAL FORMcLAM WITH JEEM ",
    "WITH MEEM INITIAL FORMcKAF WITH MEEM WITH MEEM FINAL FORMcLAM WITH JEEM WITH MEEM FINAL ",
    "FORMcNOON WITH JEEM WITH HAH FINAL FORMcJEEM WITH HAH WITH YEH FINAL FORMcHAH WITH JEEM ",
    "WITH YEH FINAL FORMcMEEM WITH JEEM WITH YEH FINAL FORMcFEH WITH MEEM WITH YEH FINAL FORMc",
    "BEH WITH HAH WITH YEH FINAL FORMcKAF WITH MEEM WITH MEEM INITIAL FORMcAIN WITH JEEM WITH ",
    "MEEM INITIAL FORMcSAD WITH MEEM WITH MEEM INITIAL FORMcSEEN WITH KHAH WITH YEH FINAL FORMc",
    "NOON WITH JEEM WITH YEH FINAL FORM"]⟩,
  ⟨0xFDCF, ["aARABIC LIGATURE SALAAMUHU ALAYNAA"]⟩,
  ⟨0xFDF0, [
    "aARABIC LIGATURE SALLA USED AS KORANIC STOP SIGN ISOLATED FORMcQALA USED AS KORANIC STOP ",
    "SIGN ISOLATED FORMcALLAH ISOLATED FORMcAKBAR ISOLATED FORMcMOHAMMAD ISOLATED FORMcSALAM ",
    "ISOLATED FORMcRASOUL ISOLATED FORMcALAYHE ISOLATED FORMcWASALLAM ISOLATED FORMcSALLA ",
    "ISOLATED FORMcSALLALLAHOU ALAYHE WASALLAMcJALLAJALALOUHOUaRIAL SIGNaARABIC LIGATURE ",
    "BISMILLAH AR-RAHMAN AR-RAHEEMcSUBHAANAHU WA TAAALAAcAZZA WA JALLaVARIATION SELECTOR-1c-2c-",
    "3c-4c-5c-6c-7c-8c-9c-10c-11c-12c-13c-14c-15c-16aPRESENTATION FORM FOR VERTICAL COMMAe",
    "IDEOGRAPHIC COMMAfFULL STOPeCOLONeSEMICOLONeEXCLAMATION MARKeQUESTION MARKeLEFT WHITE ",
    "LENTICULAR BRACKETeRIGHT WHITE LENTICULAR BRAKCETeHORIZONTAL ELLIPSIS"]⟩,
  ⟨0xFE20, [
    "aCOMBINING LIGATURE LEFT HALFcRIGHT HALFbDOUBLE TILDE LEFT HALFdRIGHT HALFbMACRON LEFT ",
    "HALFcRIGHT HALFbCONJOINING MACRONbLIGATURE LEFT HALF BELOWcRIGHT HALF BELOWbTILDE LEFT ",
    "HALF BELOWcRIGHT HALF BELOWbMACRON LEFT HALF BELOWcRIGHT HALF BELOWbCONJOINING MACRON ",
    "BELOWbCYRILLIC TITLO LEFT HALFdRIGHT HALFaPRESENTATION FORM FOR VERTICAL TWO DOT LEADEReEM",
    " DASHeEN DASHeLOW LINEeWAVY LOW LINEeLEFT PARENTHESISeRIGHT PARENTHESISeLEFT CURLY BRACKET",
    "eRIGHT CURLY BRACKETeLEFT TORTOISE SHELL BRACKETeRIGHT TORTOISE SHELL BRACKETeLEFT BLACK ",
    "LENTICULAR BRACKETeRIGHT BLACK LENTICULAR BRACKETeLEFT DOUBLE ANGLE BRACKETeRIGHT DOUBLE ",
    "ANGLE BRACKETeLEFT ANGLE BRACKETeRIGHT ANGLE BRACKETeLEFT CORNER BRACKETeRIGHT CORNER ",
    "BRACKETeLEFT WHITE CORNER BRACKETeRIGHT WHITE CORNER BRACKETaSESAME DOTaWHITE SESAME DOTa",
    "PRESENTATION FORM FOR VERTICAL LEFT SQUARE BRACKETeRIGHT SQUARE BRACKETaDASHED OVERLINEa",
    "CENTRELINE OVERLINEaWAVY OVERLINEaDOUBLE WAVY OVERLINEaDASHED LOW LINEaCENTRELINE LOW LINE",
    "aWAVY LOW LINEaSMALL COMMAbIDEOGRAPHIC COMMAbFULL STOP"]⟩,
  ⟨0xFE54, [
    "aSMALL SEMICOLONbCOLONbQUESTION MARKbEXCLAMATION MARKbEM DASHbLEFT PARENTHESISbRIGHT ",
    "PARENTHESISbLEFT CURLY BRACKETbRIGHT CURLY BRACKETbLEFT TORTOISE SHELL BRACKETbRIGHT ",
    "TORTOISE SHELL BRACKETbNUMBER SIGNbAMPERSANDbASTERISKbPLUS SIGNbHYPHEN-MINUSbLESS-THAN ",
    "SIGNbGREATER-THAN SIGNbEQUALS SIGN"]⟩,
  ⟨0xFE68, ["aSMALL REVERSE SOLIDUSbDOLLAR SIGNbPERCENT SIGNbCOMMERCIAL AT"]⟩,
  ⟨0xFE70, [
    "aARABIC FATHATAN ISOLATED FORMbTATWEEL WITH FATHATAN ABOVEbDAMMATAN ISOLATED FORMbTAIL ",
    "FRAGMENTbKASRATAN ISOLATED FORM"]⟩,
  ⟨0xFE76, [
    "aARABIC FATHA ISOLATED FORMcMEDIAL FORMbDAMMA ISOLATED FORMcMEDIAL FORMbKASRA ISOLATED ",
    "FORMcMEDIAL FORMbSHADDA ISOLATED FORMcMEDIAL FORMbSUKUN ISOLATED FORMcMEDIAL FORMbLETTER ",
    "HAMZA ISOLATED FORMcALEF WITH MADDA ABOVE ISOLATED FORMgFINAL FORMeHAMZA ABOVE ISOLATED ",
    "FORMgFINAL FORMcWAW WITH HAMZA ABOVE ISOLATED FORMgFINAL FORMcALEF WITH HAMZA BELOW ",
    "ISOLATED FORMgFINAL FORMcYEH WITH HAMZA ABOVE ISOLATED FORMgFINAL FORMgINITIAL FORMgMEDIAL",
    " FORMcALEF ISOLATED FORMdFINAL FORMcBEH ISOLATED FORMdFINAL FORMdINITIAL FORMdMEDIAL FORMc",
    "TEH MARBUTA ISOLATED FORMeFINAL FORMdISOLATED FORMdFINAL FORMdINITIAL FORMdMEDIAL FORMc",
    "THEH ISOLATED FORMdFINAL FORMdINITIAL FORMdMEDIAL FORMcJEEM ISOLATED FORMdFINAL FORMd",
    "INITIAL FORMdMEDIAL FORMcHAH ISOLATED FORMdFINAL FORMdINITIAL FORMdMEDIAL FORMcKHAH ",
    "ISOLATED FORMdFINAL FORMdINITIAL FORMdMEDIAL FORMcDAL ISOLATED FORMdFINAL FORMcTHAL ",
    "ISOLATED FORMdFINAL FORMcREH ISOLATED FORMdFINAL FORMcZAIN ISOLATED FORMdFINAL FORMcSEEN ",
    "ISOLATED FORMdFINAL FORMdINITIAL FORMdMEDIAL FORMcSHEEN ISOLATED FORMdFINAL FORMdINITIAL ",
    "FORMdMEDIAL FORMcSAD ISOLATED FORMdFINAL FORMdINITIAL FORMdMEDIAL FORMcDAD ISOLATED FORMd",
    "FINAL FORMdINITIAL FORMdMEDIAL FORMcTAH ISOLATED FORMdFINAL FORMdINITIAL FORMdMEDIAL FORMc",
    "ZAH ISOLATED FORMdFINAL FORMdINITIAL FORMdMEDIAL FORMcAIN ISOLATED FORMdFINAL FORMdINITIAL",
    " FORMdMEDIAL FORMcGHAIN ISOLATED FORMdFINAL FORMdINITIAL FORMdMEDIAL FORMcFEH ISOLATED ",
    "FORMdFINAL FORMdINITIAL FORMdMEDIAL FORMcQAF ISOLATED FORMdFINAL FORMdINITIAL FORMdMEDIAL ",
    "FORMcKAF ISOLATED FORMdFINAL FORMdINITIAL FORMdMEDIAL FORMcLAM ISOLATED FORMdFINAL FORMd",
    "INITIAL FORMdMEDIAL FORMcMEEM ISOLATED FORMdFINAL FORMdINITIAL FORMdMEDIAL FORMcNOON ",
    "ISOLATED FORMdFINAL FORMdINITIAL FORMdMEDIAL FORMcHEH ISOLATED FORMdFINAL FORMdINITIAL ",
    "FORMdMEDIAL FORMcWAW ISOLATED FORMdFINAL FORMcALEF MAKSURA ISOLATED FORMeFINAL FORMcYEH ",
    "ISOLATED FORMdFINAL FORMdINITIAL FORMdMEDIAL FORMbLIGATURE LAM WITH ALEF WITH MADDA ABOVE ",
    "ISOLATED FORMiFINAL FORMgHAMZA ABOVE ISOLATED FORMiFINAL FORMhBELOW ISOLATED FORMiFINAL ",
    "FORMfISOLATED FORMfFINAL FORM"]⟩,
  ⟨0xFEFF, ["aZERO WIDTH NO-BREAK SPACE"]⟩,
  ⟨0xFF01, [
    "aFULLWIDTH EXCLAMATION MARKbQUOTATION MARKbNUMBER SIGNbDOLLAR SIGNbPERCENT SIGNbAMPERSANDb",
    "APOSTROPHEbLEFT PARENTHESISbRIGHT PARENTHESISbASTERISKbPLUS SIGNbCOMMAbHYPHEN-MINUSbFULL ",
    "STOPbSOLIDUSbDIGIT ZEROcONEcTWOcTHREEcFOURcFIVEcSIXcSEVENcEIGHTcNINEbCOLONbSEMICOLONbLESS-",
    "THAN SIGNbEQUALS SIGNbGREATER-THAN SIGNbQUESTION MARKbCOMMERCIAL ATbLATIN CAPITAL LETTER A",
    "eBeCeDeEeFeGeHeIeJeKeLeMeNeOePeQeReSeTeUeVeWeXeYeZbLEFT SQUARE BRACKETbREVERSE SOLIDUSb",
    "RIGHT SQUARE BRACKETbCIRCUMFLEX ACCENTbLOW LINEbGRAVE ACCENTbLATIN SMALL LETTER AeBeCeDeEe",
    "FeGeHeIeJeKeLeMeNeOePeQeReSeTeUeVeWeXeYeZbLEFT CURLY BRACKETbVERTICAL LINEbRIGHT CURLY ",
    "BRACKETbTILDEbLEFT WHITE PARENTHESISbRIGHT WHITE PARENTHESISaHALFWIDTH IDEOGRAPHIC FULL ",
    "STOPbLEFT CORNER BRACKETbRIGHT CORNER BRACKETbIDEOGRAPHIC COMMAbKATAKANA MIDDLE DOTcLETTER",
    " WOdSMALL AeIeUeEeOeYAeYUeYOeTUc-HIRAGANA PROLONGED SOUND MARKcLETTER AdIdUdEdOdKAdKIdKUd",
    "KEdKOdSAdSIdSUdSEdSOdTAdTIdTUdTEdTOdNAdNIdNUdNEdNOdHAdHIdHUdHEdHOdMAdMIdMUdMEdMOdYAdYUdYOd",
    "RAdRIdRUdREdROdWAdNcVOICED SOUND MARKcSEMI-VOICED SOUND MARKbHANGUL FILLERcLETTER KIYEOKd",
    "SSANGKIYEOKdKIYEOK-SIOSdNIEUNe-CIEUCe-HIEUHdTIKEUTdSSANGTIKEUTdRIEULe-KIYEOKe-MIEUMe-PIEUP",
    "e-SIOSe-THIEUTHe-PHIEUPHe-HIEUHdMIEUMdPIEUPdSSANGPIEUPdPIEUP-SIOSdSIOSdSSANGSIOSdIEUNGd",
    "CIEUCdSSANGCIEUCdCHIEUCHdKHIEUKHdTHIEUTHdPHIEUPHdHIEUH"]⟩,
  ⟨0xFFC2, ["aHALFWIDTH HANGUL LETTER AdAEdYAdYAEdEOdE"]⟩,
  ⟨0xFFCA, ["aHALFWIDTH HANGUL LETTER YEOdYEdOdWAdWAEdOE"]⟩,
  ⟨0xFFD2, ["aHALFWIDTH HANGUL LETTER YOdUdWEOdWEdWIdYU"]⟩,
  ⟨0xFFDA, ["aHALFWIDTH HANGUL LETTER EUdYIdI"]⟩,
  ⟨0xFFE0, [
    "aFULLWIDTH CENT SIGNbPOUND SIGNbNOT SIGNbMACRONbBROKEN BARbYEN SIGNbWON SIGN"]⟩,
  ⟨0xFFE8, [
    "aHALFWIDTH FORMS LIGHT VERTICALbLEFTWARDS ARROWbUPWARDS ARROWbRIGHTWARDS ARROWbDOWNWARDS ",
    "ARROWbBLACK SQUAREbWHITE CIRCLE"]⟩,
  ⟨0xFFF9, [
    "aINTERLINEAR ANNOTATION ANCHORcSEPARATORcTERMINATORaOBJECT REPLACEMENT CHARACTERa",
    "REPLACEMENT CHARACTER"]⟩]

end ActionRouting.Text.CharName
