import ActionRouting.Text.CharName

/-! The names of tiles, cards, pictures and tags. -/
namespace ActionRouting.Text.CharName

/-- The names of tiles, cards, pictures and tags. -/
def pictures : List NameRun := [
  ⟨0x1F000, [
    "aMAHJONG TILE EAST WINDcSOUTH WINDcWEST WINDcNORTH WINDcRED DRAGONcGREEN DRAGONcWHITE ",
    "DRAGONcONE OF CHARACTERScTWO OF CHARACTERScTHREE OF CHARACTERScFOUR OF CHARACTERScFIVE OF ",
    "CHARACTERScSIX OF CHARACTERScSEVEN OF CHARACTERScEIGHT OF CHARACTERScNINE OF CHARACTERSc",
    "ONE OF BAMBOOScTWO OF BAMBOOScTHREE OF BAMBOOScFOUR OF BAMBOOScFIVE OF BAMBOOScSIX OF ",
    "BAMBOOScSEVEN OF BAMBOOScEIGHT OF BAMBOOScNINE OF BAMBOOScONE OF CIRCLEScTWO OF CIRCLESc",
    "THREE OF CIRCLEScFOUR OF CIRCLEScFIVE OF CIRCLEScSIX OF CIRCLEScSEVEN OF CIRCLEScEIGHT OF ",
    "CIRCLEScNINE OF CIRCLEScPLUMcORCHIDcBAMBOOcCHRYSANTHEMUMcSPRINGcSUMMERcAUTUMNcWINTERcJOKER",
    "cBACK"]⟩,
  ⟨0x1F030, [
    "aDOMINO TILE HORIZONTAL BACKd-00-00e-01e-02e-03e-04e-05e-06d-01-00e-01e-02e-03e-04e-05e-06",
    "d-02-00e-01e-02e-03e-04e-05e-06d-03-00e-01e-02e-03e-04e-05e-06d-04-00e-01e-02e-03e-04e-05e",
    "-06d-05-00e-01e-02e-03e-04e-05e-06d-06-00e-01e-02e-03e-04e-05e-06cVERTICAL BACKd-00-00e-01",
    "e-02e-03e-04e-05e-06d-01-00e-01e-02e-03e-04e-05e-06d-02-00e-01e-02e-03e-04e-05e-06d-03-00e",
    "-01e-02e-03e-04e-05e-06d-04-00e-01e-02e-03e-04e-05e-06d-05-00e-01e-02e-03e-04e-05e-06d-06-",
    "00e-01e-02e-03e-04e-05e-06"]⟩,
  ⟨0x1F0A0, [
    "aPLAYING CARD BACKcACE OF SPADEScTWO OF SPADEScTHREE OF SPADEScFOUR OF SPADEScFIVE OF ",
    "SPADEScSIX OF SPADEScSEVEN OF SPADEScEIGHT OF SPADEScNINE OF SPADEScTEN OF SPADEScJACK OF ",
    "SPADEScKNIGHT OF SPADEScQUEEN OF SPADEScKING OF SPADES"]⟩,
  ⟨0x1F0B1, [
    "aPLAYING CARD ACE OF HEARTScTWO OF HEARTScTHREE OF HEARTScFOUR OF HEARTScFIVE OF HEARTSc",
    "SIX OF HEARTScSEVEN OF HEARTScEIGHT OF HEARTScNINE OF HEARTScTEN OF HEARTScJACK OF HEARTSc",
    "KNIGHT OF HEARTScQUEEN OF HEARTScKING OF HEARTScRED JOKER"]⟩,
  ⟨0x1F0C1, [
    "aPLAYING CARD ACE OF DIAMONDScTWO OF DIAMONDScTHREE OF DIAMONDScFOUR OF DIAMONDScFIVE OF ",
    "DIAMONDScSIX OF DIAMONDScSEVEN OF DIAMONDScEIGHT OF DIAMONDScNINE OF DIAMONDScTEN OF ",
    "DIAMONDScJACK OF DIAMONDScKNIGHT OF DIAMONDScQUEEN OF DIAMONDScKING OF DIAMONDScBLACK ",
    "JOKER"]⟩,
  ⟨0x1F0D1, [
    "aPLAYING CARD ACE OF CLUBScTWO OF CLUBScTHREE OF CLUBScFOUR OF CLUBScFIVE OF CLUBScSIX OF ",
    "CLUBScSEVEN OF CLUBScEIGHT OF CLUBScNINE OF CLUBScTEN OF CLUBScJACK OF CLUBScKNIGHT OF ",
    "CLUBScQUEEN OF CLUBScKING OF CLUBScWHITE JOKERcFOOLcTRUMP-1d-2d-3d-4d-5d-6d-7d-8d-9d-10d-",
    "11d-12d-13d-14d-15d-16d-17d-18d-19d-20d-21"]⟩,
  ⟨0x1F100, [
    "aDIGIT ZERO FULL STOPcCOMMAbONE COMMAbTWO COMMAbTHREE COMMAbFOUR COMMAbFIVE COMMAbSIX ",
    "COMMAbSEVEN COMMAbEIGHT COMMAbNINE COMMAaDINGBAT CIRCLED SANS-SERIF DIGIT ZERObNEGATIVE ",
    "CIRCLED SANS-SERIF DIGIT ZEROaCIRCLED ZERO WITH SLASHbANTICLOCKWISE ARROWbDOLLAR SIGN WITH",
    " OVERLAID BACKSLASHaPARENTHESIZED LATIN CAPITAL LETTER AeBeCeDeEeFeGeHeIeJeKeLeMeNeOePeQeR",
    "eSeTeUeVeWeXeYeZaTORTOISE SHELL BRACKETED LATIN CAPITAL LETTER SaCIRCLED ITALIC LATIN ",
    "CAPITAL LETTER CfRbCDbWZaCOPYLEFT SYMBOLaSQUARED LATIN CAPITAL LETTER AeBeCeDeEeFeGeHeIeJe",
    "KeLeMeNeOePeQeReSeTeUeVeWeXeYeZbHVbMVbSDbSSbPPVbWCaNEGATIVE CIRCLED LATIN CAPITAL LETTER A",
    "fBfCfDfEfFfGfHfIfJfKfLfMfNfOfPfQfRfSfTfUfVfWfXfYfZaRAISED MC SIGNbMD SIGNbMR SIGNaCIRCLED ",
    "CCbC WITH OVERLAID BACKSLASHbHUMAN FIGUREaNEGATIVE SQUARED LATIN CAPITAL LETTER AfBfCfDfEf",
    "FfGfHfIfJfKfLfMfNfOfPfQfRfSfTfUfVfWfXfYfZaCROSSED NEGATIVE SQUARED LATIN CAPITAL LETTER Pa",
    "NEGATIVE SQUARED ICcPAcSAcABcWCaSQUARE DJaSQUARED CLbCOOLbFREEbIDbNEWbNGbOKbSOSbUP WITH ",
    "EXCLAMATION MARKbVSbTHREE DbSECOND SCREENbTWO KbFOUR KbEIGHT KbFIVE POINT ONEbSEVEN POINT ",
    "ONEbTWENTY-TWO POINT TWObSIXTY PbONE HUNDRED TWENTY PbLATIN SMALL LETTER DbHCbHDRbHI-RESb",
    "LOSSLESSbSHVbUHDbVODaMASK WORK SYMBOL"]⟩,
  ⟨0x1F1E6, [
    "aREGIONAL INDICATOR SYMBOL LETTER AeBeCeDeEeFeGeHeIeJeKeLeMeNeOePeQeReSeTeUeVeWeXeYeZa",
    "SQUARE HIRAGANA HOKAaSQUARED KATAKANA KOKOcSA"]⟩,
  ⟨0x1F210, [
    "aSQUARED CJK UNIFIED IDEOGRAPH-624Be-5B57e-53CCbKATAKANA DEbCJK UNIFIED IDEOGRAPH-4E8Ce-",
    "591Ae-89E3e-5929e-4EA4e-6620e-7121e-6599e-524De-5F8Ce-518De-65B0e-521De-7D42e-751Fe-8CA9e-",
    "58F0e-5439e-6F14e-6295e-6355e-4E00e-4E09e-904Ae-5DE6e-4E2De-53F3e-6307e-8D70e-6253e-7981e-",
    "7A7Ae-5408e-6E80e-6709e-6708e-7533e-5272e-55B6e-914D"]⟩,
  ⟨0x1F240, [
    "aTORTOISE SHELL BRACKETED CJK UNIFIED IDEOGRAPH-672Cg-4E09g-4E8Cg-5B89g-70B9g-6253g-76D7g-",
    "52DDg-6557"]⟩,
  ⟨0x1F250, ["aCIRCLED IDEOGRAPH ADVANTAGEcACCEPT"]⟩,
  ⟨0x1F260, ["aROUNDED SYMBOL FOR FUdLUdSHOUdXIdSHUANGXIdCAI"]⟩,
  ⟨0x1F300, [
    "aCYCLONEaFOGGYaCLOSED UMBRELLAaNIGHT WITH STARSaSUNRISE OVER MOUNTAINSaSUNRISEaCITYSCAPE ",
    "AT DUSKaSUNSET OVER BUILDINGSaRAINBOWaBRIDGE AT NIGHTaWATER WAVEaVOLCANOaMILKY WAYaEARTH ",
    "GLOBE EUROPE-AFRICAcAMERICAScASIA-AUSTRALIAaGLOBE WITH MERIDIANSaNEW MOON SYMBOLaWAXING ",
    "CRESCENT MOON SYMBOLaFIRST QUARTER MOON SYMBOLaWAXING GIBBOUS MOON SYMBOLaFULL MOON SYMBOL",
    "aWANING GIBBOUS MOON SYMBOLaLAST QUARTER MOON SYMBOLaWANING CRESCENT MOON SYMBOLaCRESCENT ",
    "MOONaNEW MOON WITH FACEaFIRST QUARTER MOON WITH FACEaLAST QUARTER MOON WITH FACEaFULL MOON",
    " WITH FACEaSUN WITH FACEaGLOWING STARaSHOOTING STARaTHERMOMETERaBLACK DROPLETaWHITE SUNc",
    "WITH SMALL CLOUDcBEHIND CLOUDeWITH RAINaCLOUD WITH RAINcSNOWcLIGHTNINGcTORNADOaFOGaWIND ",
    "BLOWING FACEaHOT DOGaTACOaBURRITOaCHESTNUTaSEEDLINGaEVERGREEN TREEaDECIDUOUS TREEaPALM ",
    "TREEaCACTUSaHOT PEPPERaTULIPaCHERRY BLOSSOMaROSEaHIBISCUSaSUNFLOWERaBLOSSOMaEAR OF MAIZEc",
    "RICEaHERBaFOUR LEAF CLOVERaMAPLE LEAFaFALLEN LEAFaLEAF FLUTTERING IN WINDaMUSHROOMaTOMATOa",
    "AUBERGINEaGRAPESaMELONaWATERMELONaTANGERINEaLEMONaBANANAaPINEAPPLEaRED APPLEaGREEN APPLEa",
    "PEARaPEACHaCHERRIESaSTRAWBERRYaHAMBURGERaSLICE OF PIZZAaMEAT ON BONEaPOULTRY LEGaRICE ",
    "CRACKERbBALLaCOOKED RICEaCURRY AND RICEaSTEAMING BOWLaSPAGHETTIaBREADaFRENCH FRIESaROASTED",
    " SWEET POTATOaDANGOaODENaSUSHIaFRIED SHRIMPaFISH CAKE WITH SWIRL DESIGNaSOFT ICE CREAMa",
    "SHAVED ICEaICE CREAMaDOUGHNUTaCOOKIEaCHOCOLATE BARaCANDYaLOLLIPOPaCUSTARDaHONEY POTa",
    "SHORTCAKEaBENTO BOXaPOT OF FOODaCOOKINGaFORK AND KNIFEaTEACUP WITHOUT HANDLEaSAKE BOTTLE ",
    "AND CUPaWINE GLASSaCOCKTAIL GLASSaTROPICAL DRINKaBEER MUGaCLINKING BEER MUGSaBABY BOTTLEa",
    "FORK AND KNIFE WITH PLATEaBOTTLE WITH POPPING CORKaPOPCORNaRIBBONaWRAPPED PRESENTaBIRTHDAY",
    " CAKEaJACK-O-LANTERNaCHRISTMAS TREEaFATHER CHRISTMASaFIREWORKSaFIREWORK SPARKLERaBALLOONa",
    "PARTY POPPERaCONFETTI BALLaTANABATA TREEaCROSSED FLAGSaPINE DECORATIONaJAPANESE DOLLSaCARP",
    " STREAMERaWIND CHIMEaMOON VIEWING CEREMONYaSCHOOL SATCHELaGRADUATION CAPaHEART WITH TIP ON",
    " THE LEFTaBOUQUET OF FLOWERSaMILITARY MEDALaREMINDER RIBBONaMUSICAL KEYBOARD WITH JACKSa",
    "STUDIO MICROPHONEaLEVEL SLIDERaCONTROL KNOBSaBEAMED ASCENDING MUSICAL NOTESbDESCENDING ",
    "MUSICAL NOTESaFILM FRAMESaADMISSION TICKETSaCAROUSEL HORSEaFERRIS WHEELaROLLER COASTERa",
    "FISHING POLE AND FISHaMICROPHONEaMOVIE CAMERAaCINEMAaHEADPHONEaARTIST PALETTEaTOP HATa",
    "CIRCUS TENTaTICKETaCLAPPER BOARDaPERFORMING ARTSaVIDEO GAMEaDIRECT HITaSLOT MACHINEa",
    "BILLIARDSaGAME DIEaBOWLINGaFLOWER PLAYING CARDSaMUSICAL NOTEaMULTIPLE MUSICAL NOTESa",
    "SAXOPHONEaGUITARaMUSICAL KEYBOARDaTRUMPETaVIOLINaMUSICAL SCOREaRUNNING SHIRT WITH SASHa",
    "TENNIS RACQUET AND BALLaSKI AND SKI BOOTaBASKETBALL AND HOOPaCHEQUERED FLAGaSNOWBOARDERa",
    "RUNNERaSURFERaSPORTS MEDALaTROPHYaHORSE RACINGaAMERICAN FOOTBALLaRUGBY FOOTBALLaSWIMMERa",
    "WEIGHT LIFTERaGOLFERaRACING MOTORCYCLEbCARaCRICKET BAT AND BALLaVOLLEYBALLaFIELD HOCKEY ",
    "STICK AND BALLaICE HOCKEY STICK AND PUCKaTABLE TENNIS PADDLE AND BALLaSNOW CAPPED MOUNTAIN",
    "aCAMPINGaBEACH WITH UMBRELLAaBUILDING CONSTRUCTIONaHOUSE BUILDINGSaCITYSCAPEaDERELICT ",
    "HOUSE BUILDINGaCLASSICAL BUILDINGaDESERTbISLANDaNATIONAL PARKaSTADIUMaHOUSE BUILDINGbWITH ",
    "GARDENaOFFICE BUILDINGaJAPANESE POST OFFICEaEUROPEAN POST OFFICEaHOSPITALaBANKaAUTOMATED ",
    "TELLER MACHINEaHOTELaLOVE HOTELaCONVENIENCE STOREaSCHOOLaDEPARTMENT STOREaFACTORYaIZAKAYA ",
    "LANTERNaJAPANESE CASTLEaEUROPEAN CASTLEaWHITE PENNANTaBLACK PENNANTaWAVING WHITE FLAGb",
    "BLACK FLAGaROSETTEaBLACK ROSETTEaLABELaBADMINTON RACQUET AND SHUTTLECOCKaBOW AND ARROWa",
    "AMPHORAaEMOJI MODIFIER FITZPATRICK TYPE-1-2e-3e-4e-5e-6aRATaMOUSEaOXaWATER BUFFALOaCOWa",
    "TIGERaLEOPARDaRABBITaCATaDRAGONaCROCODILEaWHALEaSNAILaSNAKEaHORSEaRAMaGOATaSHEEPaMONKEYa",
    "ROOSTERaCHICKENaDOGaPIGaBOARaELEPHANTaOCTOPUSaSPIRAL SHELLaBUGaANTaHONEYBEEaLADY BEETLEa",
    "FISHaTROPICAL FISHaBLOWFISHaTURTLEaHATCHING CHICKaBABY CHICKaFRONT-FACING BABY CHICKaBIRDa",
    "PENGUINaKOALAaPOODLEaDROMEDARY CAMELaBACTRIAN CAMELaDOLPHINaMOUSE FACEaCOW FACEaTIGER FACE",
    "aRABBIT FACEaCAT FACEaDRAGON FACEaSPOUTING WHALEaHORSE FACEaMONKEY FACEaDOG FACEaPIG FACEa",
    "FROG FACEaHAMSTER FACEaWOLF FACEaBEAR FACEaPANDA FACEaPIG NOSEaPAW PRINTSaCHIPMUNKaEYESa",
    "EYEaEARaNOSEaMOUTHaTONGUEaWHITE UP POINTING BACKHAND INDEXbDOWN POINTING BACKHAND INDEXb",
    "LEFT POINTING BACKHAND INDEXbRIGHT POINTING BACKHAND INDEXaFISTED HAND SIGNaWAVING HAND ",
    "SIGNaOK HAND SIGNaTHUMBS UP SIGNbDOWN SIGNaCLAPPING HANDS SIGNaOPEN HANDS SIGNaCROWNa",
    "WOMANS HATaEYEGLASSESaNECKTIEaT-SHIRTaJEANSaDRESSaKIMONOaBIKINIaWOMANS CLOTHESaPURSEa",
    "HANDBAGaPOUCHaMANS SHOEaATHLETIC SHOEaHIGH-HEELED SHOEaWOMANS SANDALbBOOTSaFOOTPRINTSaBUST",
    " IN SILHOUETTEaBUSTS IN SILHOUETTEaBOYaGIRLaMANaWOMANaFAMILYaMAN AND WOMAN HOLDING HANDSa",
    "TWO MEN HOLDING HANDSbWOMEN HOLDING HANDSaPOLICE OFFICERaWOMAN WITH BUNNY EARSaBRIDE WITH ",
    "VEILaPERSON WITH BLOND HAIRaMAN WITH GUA PI MAOcTURBANaOLDER MANbWOMANaBABYaCONSTRUCTION ",
    "WORKERaPRINCESSaJAPANESE OGREbGOBLINaGHOSTaBABY ANGELaEXTRATERRESTRIAL ALIENaALIEN MONSTER",
    "aIMPaSKULLaINFORMATION DESK PERSONaGUARDSMANaDANCERaLIPSTICKaNAIL POLISHaFACE MASSAGEa",
    "HAIRCUTaBARBER POLEaSYRINGEaPILLaKISS MARKaLOVE LETTERaRINGaGEM STONEaKISSaBOUQUETaCOUPLE ",
    "WITH HEARTaWEDDINGaBEATING HEARTaBROKEN HEARTaTWO HEARTSaSPARKLING HEARTaGROWING HEARTa",
    "HEART WITH ARROWaBLUE HEARTaGREEN HEARTaYELLOW HEARTaPURPLE HEARTaHEART WITH RIBBONa",
    "REVOLVING HEARTSaHEART DECORATIONaDIAMOND SHAPE WITH A DOT INSIDEaELECTRIC LIGHT BULBa",
    "ANGER SYMBOLaBOMBaSLEEPING SYMBOLaCOLLISION SYMBOLaSPLASHING SWEAT SYMBOLaDROPLETaDASH ",
    "SYMBOLaPILE OF POOaFLEXED BICEPSaDIZZY SYMBOLaSPEECH BALLOONaTHOUGHT BALLOONaWHITE FLOWERa",
    "HUNDRED POINTS SYMBOLaMONEY BAGaCURRENCY EXCHANGEaHEAVY DOLLAR SIGNaCREDIT CARDaBANKNOTE ",
    "WITH YEN SIGNcDOLLAR SIGNcEURO SIGNcPOUND SIGNaMONEY WITH WINGSaCHART WITH UPWARDS TREND ",
    "AND YEN SIGNaSEATaPERSONAL COMPUTERaBRIEFCASEaMINIDISCaFLOPPY DISKaOPTICAL DISCaDVDaFILE ",
    "FOLDERaOPEN FILE FOLDERaPAGE WITH CURLbFACING UPaCALENDARaTEAR-OFF CALENDARaCARD INDEXa",
    "CHART WITH UPWARDS TRENDcDOWNWARDS TRENDaBAR CHARTaCLIPBOARDaPUSHPINaROUND PUSHPINa",
    "PAPERCLIPaSTRAIGHT RULERaTRIANGULAR RULERaBOOKMARK TABSaLEDGERaNOTEBOOKbWITH DECORATIVE ",
    "COVERaCLOSED BOOKaOPEN BOOKaGREEN BOOKaBLUE BOOKaORANGE BOOKaBOOKSaNAME BADGEaSCROLLaMEMOa",
    "TELEPHONE RECEIVERaPAGERaFAX MACHINEaSATELLITE ANTENNAaPUBLIC ADDRESS LOUDSPEAKERaCHEERING",
    " MEGAPHONEaOUTBOX TRAYaINBOX TRAYaPACKAGEaE-MAIL SYMBOLaINCOMING ENVELOPEaENVELOPE WITH ",
    "DOWNWARDS ARROW ABOVEaCLOSED MAILBOX WITH LOWERED FLAGdRAISED FLAGaOPEN MAILBOX WITH ",
    "RAISED FLAGdLOWERED FLAGaPOSTBOXaPOSTAL HORNaNEWSPAPERaMOBILE PHONEcWITH RIGHTWARDS ARROW ",
    "AT LEFTaVIBRATION MODEaMOBILE PHONE OFFaNO MOBILE PHONESaANTENNA WITH BARSaCAMERAbWITH ",
    "FLASHaVIDEO CAMERAaTELEVISIONaRADIOaVIDEOCASSETTEaFILM PROJECTORaPORTABLE STEREOaPRAYER ",
    "BEADSaTWISTED RIGHTWARDS ARROWSaCLOCKWISE RIGHTWARDS AND LEFTWARDS OPEN CIRCLE ARROWShWITH",
    " CIRCLED ONE OVERLAYbDOWNWARDS AND UPWARDS OPEN CIRCLE ARROWSaANTICLOCKWISE DOWNWARDS AND ",
    "UPWARDS OPEN CIRCLE ARROWSaLOW BRIGHTNESS SYMBOLaHIGH BRIGHTNESS SYMBOLaSPEAKER WITH ",
    "CANCELLATION STROKEaSPEAKERbWITH ONE SOUND WAVEcTHREE SOUND WAVESaBATTERYaELECTRIC PLUGa",
    "LEFT-POINTING MAGNIFYING GLASSaRIGHT-POINTING MAGNIFYING GLASSaLOCK WITH INK PENaCLOSED ",
    "LOCK WITH KEYaKEYaLOCKaOPEN LOCKaBELLbWITH CANCELLATION STROKEaBOOKMARKaLINK SYMBOLaRADIO ",
    "BUTTONaBACK WITH LEFTWARDS ARROW ABOVEaEND WITH LEFTWARDS ARROW ABOVEaON WITH EXCLAMATION ",
    "MARK WITH LEFT RIGHT ARROW ABOVEaSOON WITH RIGHTWARDS ARROW ABOVEaTOP WITH UPWARDS ARROW ",
    "ABOVEaNO ONE UNDER EIGHTEEN SYMBOLaKEYCAP TENaINPUT SYMBOL FOR LATIN CAPITAL LETTERSeSMALL",
    " LETTERSdNUMBERSdSYMBOLSdLATIN LETTERSaFIREaELECTRIC TORCHaWRENCHaHAMMERaNUT AND BOLTa",
    "HOCHOaPISTOLaMICROSCOPEaTELESCOPEaCRYSTAL BALLaSIX POINTED STAR WITH MIDDLE DOTaJAPANESE ",
    "SYMBOL FOR BEGINNERaTRIDENT EMBLEMaBLACK SQUARE BUTTONaWHITE SQUARE BUTTONaLARGE RED ",
    "CIRCLEbBLUE CIRCLEbORANGE DIAMONDbBLUE DIAMONDaSMALL ORANGE DIAMONDbBLUE DIAMONDaUP-",
    "POINTING RED TRIANGLEaDOWN-POINTING RED TRIANGLEaUP-POINTING SMALL RED TRIANGLEaDOWN-",
    "POINTING SMALL RED TRIANGLEaLOWER RIGHT SHADOWED WHITE CIRCLEaUPPER RIGHT SHADOWED WHITE ",
    "CIRCLEaCIRCLED CROSS POMMEEaCROSS POMMEE WITH HALF-CIRCLE BELOWbPOMMEEaNOTCHED LEFT ",
    "SEMICIRCLE WITH THREE DOTSbRIGHT SEMICIRCLE WITH THREE DOTSaSYMBOL FOR MARKS CHAPTERaWHITE",
    " LATIN CROSSaHEAVY LATIN CROSSaCELTIC CROSSaOM SYMBOLaDOVE OF PEACEaKAABAaMOSQUEaSYNAGOGUE",
    "aMENORAH WITH NINE BRANCHESaBOWL OF HYGIEIAaCLOCK FACE ONE OCLOCKcTWO OCLOCKcTHREE OCLOCKc",
    "FOUR OCLOCKcFIVE OCLOCKcSIX OCLOCKcSEVEN OCLOCKcEIGHT OCLOCKcNINE OCLOCKcTEN OCLOCKcELEVEN",
    " OCLOCKcTWELVE OCLOCKcONE-THIRTYcTWO-THIRTYcTHREE-THIRTYcFOUR-THIRTYcFIVE-THIRTYcSIX-",
    "THIRTYcSEVEN-THIRTYcEIGHT-THIRTYcNINE-THIRTYcTEN-THIRTYcELEVEN-THIRTYcTWELVE-THIRTYaRIGHT ",
    "SPEAKERcWITH ONE SOUND WAVEdTHREE SOUND WAVESaBULLHORNbWITH SOUND WAVESaRINGING BELLaBOOKa",
    "CANDLEaMANTELPIECE CLOCKaBLACK SKULL AND CROSSBONESaNO PIRACYaHOLEaMAN IN BUSINESS SUIT ",
    "LEVITATINGaSLEUTH OR SPYaDARK SUNGLASSESaSPIDERbWEBaJOYSTICKaMAN DANCINGaLEFT HAND ",
    "TELEPHONE RECEIVERaTELEPHONE RECEIVER WITH PAGEaRIGHT HAND TELEPHONE RECEIVERaWHITE ",
    "TOUCHTONE TELEPHONEaBLACK TOUCHTONE TELEPHONEaTELEPHONE ON TOP OF MODEMaCLAMSHELL MOBILE ",
    "PHONEaBACK OF ENVELOPEaSTAMPED ENVELOPEaENVELOPE WITH LIGHTNINGaFLYING ENVELOPEaPEN OVER ",
    "STAMPED ENVELOPEaLINKED PAPERCLIPSaBLACK PUSHPINaLOWER LEFT PENCILcBALLPOINT PENcFOUNTAIN ",
    "PENcPAINTBRUSHcCRAYONaLEFT WRITING HANDaTURNED OK HAND SIGNaRAISED HAND WITH FINGERS ",
    "SPLAYEDaREVERSED RAISED HAND WITH FINGERS SPLAYEDbTHUMBS UP SIGNcDOWN SIGNbVICTORY HANDb",
    "HAND WITH MIDDLE FINGER EXTENDEDaRAISED HAND WITH PART BETWEEN MIDDLE AND RING FINGERSa",
    "WHITE DOWN POINTING LEFT HAND INDEXaSIDEWAYS WHITE LEFT POINTING INDEXcRIGHT POINTING ",
    "INDEXbBLACK LEFT POINTING INDEXcRIGHT POINTING INDEXaBLACK LEFT POINTING BACKHAND INDEXb",
    "RIGHT POINTING BACKHAND INDEXaSIDEWAYS WHITE UP POINTING INDEXcDOWN POINTING INDEXbBLACK ",
    "UP POINTING INDEXcDOWN POINTING INDEXaBLACK UP POINTING BACKHAND INDEXbDOWN POINTING ",
    "BACKHAND INDEXbHEARTaDESKTOP COMPUTERaKEYBOARD AND MOUSEaTHREE NETWORKED COMPUTERSaPRINTER",
    "aPOCKET CALCULATORaBLACK HARD SHELL FLOPPY DISKaWHITE HARD SHELL FLOPPY DISKaSOFT SHELL ",
    "FLOPPY DISKaTAPE CARTRIDGEaWIRED KEYBOARDaONE BUTTON MOUSEaTWO BUTTON MOUSEaTHREE BUTTON ",
    "MOUSEaTRACKBALLaOLD PERSONAL COMPUTERaHARD DISKaSCREENaPRINTER ICONaFAX ICONaOPTICAL DISC ",
    "ICONaDOCUMENT WITH TEXTdAND PICTUREcPICTUREaFRAME WITH PICTUREcTILEScAN XaBLACK FOLDERa",
    "FOLDERaOPEN FOLDERaCARD INDEX DIVIDERSbFILE BOXaFILE CABINETaEMPTY NOTEcPAGEcPADaNOTEbPAGE",
    "bPADaEMPTY DOCUMENTbPAGEbPAGESaDOCUMENTaPAGEaPAGESaWASTEBASKETaSPIRAL NOTE PADbCALENDAR ",
    "PADaDESKTOP WINDOWaMINIMIZEaMAXIMIZEaOVERLAPaCLOCKWISE RIGHT AND LEFT SEMICIRCLE ARROWSa",
    "CANCELLATION XaINCREASE FONT SIZE SYMBOLaDECREASE FONT SIZE SYMBOLaCOMPRESSIONaOLD KEYa",
    "ROLLED-UP NEWSPAPERaPAGE WITH CIRCLED TEXTaSTOCK CHARTaDAGGER KNIFEaLIPSaSPEAKING HEAD IN ",
    "SILHOUETTEaTHREE RAYS ABOVEcBELOWcLEFTcRIGHTaLEFT SPEECH BUBBLEaRIGHT SPEECH BUBBLEaTWO ",
    "SPEECH BUBBLESaTHREE SPEECH BUBBLESaLEFT THOUGHT BUBBLEaRIGHT THOUGHT BUBBLEaLEFT ANGER ",
    "BUBBLEaRIGHT ANGER BUBBLEaMOOD BUBBLEaLIGHTNING MOOD BUBBLEbMOODaBALLOT BOX WITH BALLOTb",
    "SCRIPT XbBOX WITH SCRIPT XbBOLD SCRIPT XbBOX WITH BOLD SCRIPT XaLIGHT CHECK MARKaBALLOT ",
    "BOX WITH BOLD CHECKaWORLD MAPaMOUNT FUJIaTOKYO TOWERaSTATUE OF LIBERTYaSILHOUETTE OF JAPAN",
    "aMOYAIaGRINNING FACEcWITH SMILING EYESaFACE WITH TEARS OF JOYaSMILING FACE WITH OPEN MOUTH",
    "fAND SMILING EYESgCOLD SWEATgTIGHTLY-CLOSED EYESdHALOdHORNSaWINKING FACEaSMILING FACE WITH",
    " SMILING EYESaFACE SAVOURING DELICIOUS FOODaRELIEVED FACEaSMILING FACE WITH HEART-SHAPED ",
    "EYESdSUNGLASSESaSMIRKING FACEaNEUTRAL FACEaEXPRESSIONLESS FACEaUNAMUSED FACEaFACE WITH ",
    "COLD SWEATaPENSIVE FACEaCONFUSED FACEaCONFOUNDED FACEaKISSING FACEaFACE THROWING A KISSa",
    "KISSING FACE WITH SMILING EYESdCLOSED EYESaFACE WITH STUCK-OUT TONGUEfAND WINKING EYEg",
    "TIGHTLY-CLOSED EYESaDISAPPOINTED FACEaWORRIED FACEaANGRY FACEaPOUTING FACEaCRYING FACEa",
    "PERSEVERING FACEaFACE WITH LOOK OF TRIUMPHaDISAPPOINTED BUT RELIEVED FACEaFROWNING FACE ",
    "WITH OPEN MOUTHaANGUISHED FACEaFEARFUL FACEaWEARY FACEaSLEEPY FACEaTIRED FACEaGRIMACING ",
    "FACEaLOUDLY CRYING FACEaFACE WITH OPEN MOUTHaHUSHED FACEaFACE WITH OPEN MOUTH AND COLD ",
    "SWEATbSCREAMING IN FEARaASTONISHED FACEaFLUSHED FACEaSLEEPING FACEaDIZZY FACEaFACE WITHOUT",
    " MOUTHbWITH MEDICAL MASKaGRINNING CAT FACE WITH SMILING EYESaCAT FACE WITH TEARS OF JOYa",
    "SMILING CAT FACE WITH OPEN MOUTHeHEART-SHAPED EYESaCAT FACE WITH WRY SMILEaKISSING CAT ",
    "FACE WITH CLOSED EYESaPOUTING CAT FACEaCRYING CAT FACEaWEARY CAT FACEaSLIGHTLY FROWNING ",
    "FACEbSMILING FACEaUPSIDE-DOWN FACEaFACE WITH ROLLING EYEScNO GOOD GESTUREcOK GESTUREa",
    "PERSON BOWING DEEPLYaSEE-NO-EVIL MONKEYaHEAR-NO-EVIL MONKEYaSPEAK-NO-EVIL MONKEYaHAPPY ",
    "PERSON RAISING ONE HANDaPERSON RAISING BOTH HANDS IN CELEBRATIONbFROWNINGbWITH POUTING ",
    "FACEcFOLDED HANDSaNORTH WEST POINTING LEAFaSOUTH WEST POINTING LEAFaNORTH EAST POINTING ",
    "LEAFaSOUTH EAST POINTING LEAFaTURNED NORTH WEST POINTING LEAFbSOUTH WEST POINTING LEAFb",
    "NORTH EAST POINTING LEAFbSOUTH EAST POINTING LEAFaNORTH WEST POINTING VINE LEAFaSOUTH WEST",
    " POINTING VINE LEAFaNORTH EAST POINTING VINE LEAFaSOUTH EAST POINTING VINE LEAFaHEAVY ",
    "NORTH WEST POINTING VINE LEAFbSOUTH WEST POINTING VINE LEAFbNORTH EAST POINTING VINE LEAFb",
    "SOUTH EAST POINTING VINE LEAFaNORTH WEST POINTING BUDaSOUTH WEST POINTING BUDaNORTH EAST ",
    "POINTING BUDaSOUTH EAST POINTING BUDaHEAVY NORTH WEST POINTING BUDbSOUTH WEST POINTING BUD",
    "bNORTH EAST POINTING BUDbSOUTH EAST POINTING BUDaHOLLOW QUILT SQUARE ORNAMENTeIN BLACK ",
    "SQUAREaSOLID QUILT SQUARE ORNAMENTeIN BLACK SQUAREaLEFTWARDS ROCKETaUPWARDS ROCKETa",
    "RIGHTWARDS ROCKETaDOWNWARDS ROCKETaSCRIPT LIGATURE ET ORNAMENTaHEAVY SCRIPT LIGATURE ET ",
    "ORNAMENTaLIGATURE OPEN ET ORNAMENTaHEAVY LIGATURE OPEN ET ORNAMENTbAMPERSAND ORNAMENTa",
    "SWASH AMPERSAND ORNAMENTaSANS-SERIF HEAVY DOUBLE TURNED COMMA QUOTATION MARK ORNAMENTe",
    "COMMA QUOTATION MARK ORNAMENTdLOW DOUBLE COMMA QUOTATION MARK ORNAMENTaHEAVY INTERROBANG ",
    "ORNAMENTaSANS-SERIF INTERROBANG ORNAMENTaHEAVY SANS-SERIF INTERROBANG ORNAMENTaVERY HEAVY ",
    "SOLIDUScREVERSE SOLIDUSaCHECKER BOARDaREVERSE CHECKER BOARDaROCKETaHELICOPTERaSTEAM ",
    "LOCOMOTIVEaRAILWAY CARaHIGH-SPEED TRAINdWITH BULLET NOSEaTRAINaMETROaLIGHT RAILaSTATIONa",
    "TRAMbCARaBUSaONCOMING BUSaTROLLEYBUSaBUS STOPaMINIBUSaAMBULANCEaFIRE ENGINEaPOLICE CARa",
    "ONCOMING POLICE CARaTAXIaONCOMING TAXIaAUTOMOBILEaONCOMING AUTOMOBILEaRECREATIONAL VEHICLE",
    "aDELIVERY TRUCKaARTICULATED LORRYaTRACTORaMONORAILaMOUNTAIN RAILWAYaSUSPENSION RAILWAYa",
    "MOUNTAIN CABLEWAYaAERIAL TRAMWAYaSHIPaROWBOATaSPEEDBOATaHORIZONTAL TRAFFIC LIGHTaVERTICAL ",
    "TRAFFIC LIGHTaCONSTRUCTION SIGNaPOLICE CARS REVOLVING LIGHTaTRIANGULAR FLAG ON POSTaDOORa",
    "NO ENTRY SIGNaSMOKING SYMBOLaNO SMOKING SYMBOLaPUT LITTER IN ITS PLACE SYMBOLaDO NOT ",
    "LITTER SYMBOLaPOTABLE WATER SYMBOLaNON-POTABLE WATER SYMBOLaBICYCLEaNO BICYCLESaBICYCLISTa",
    "MOUNTAIN BICYCLISTaPEDESTRIANaNO PEDESTRIANSaCHILDREN CROSSINGaMENS SYMBOLaWOMENS SYMBOLa",
    "RESTROOMaBABY SYMBOLaTOILETaWATER CLOSETaSHOWERaBATHaBATHTUBaPASSPORT CONTROLaCUSTOMSa",
    "BAGGAGE CLAIMaLEFT LUGGAGEaTRIANGLE WITH ROUNDED CORNERSaPROHIBITED SIGNaCIRCLED ",
    "INFORMATION SOURCEaBOYS SYMBOLaGIRLS SYMBOLaCOUCH AND LAMPaSLEEPING ACCOMMODATIONaSHOPPING",
    " BAGSaBELLHOP BELLaBEDaPLACE OF WORSHIPaOCTAGONAL SIGNaSHOPPING TROLLEYaSTUPAaPAGODAaHINDU",
    " TEMPLEaHUTaELEVATOR"]⟩,
  ⟨0x1F6DD, [
    "aPLAYGROUND SLIDEaWHEELaRING BUOYaHAMMER AND WRENCHaSHIELDaOIL DRUMaMOTORWAYaRAILWAY TRACK",
    "aMOTOR BOATaUP-POINTING MILITARY AIRPLANEcAIRPLANEcSMALL AIRPLANEaSMALL AIRPLANEaNORTHEAST",
    "-POINTING AIRPLANEaAIRPLANE DEPARTUREbARRIVING"]⟩,
  ⟨0x1F6F0, [
    "aSATELLITEaONCOMING FIRE ENGINEaDIESEL LOCOMOTIVEaPASSENGER SHIPaSCOOTERaMOTOR SCOOTERa",
    "CANOEaSLEDaFLYING SAUCERaSKATEBOARDaAUTO RICKSHAWaPICKUP TRUCKaROLLER SKATE"]⟩,
  ⟨0x1F700, [
    "aALCHEMICAL SYMBOL FOR QUINTESSENCEdAIRdFIREdEARTHdWATERdAQUAFORTISdAQUA REGIAf-2eVITAEf-2",
    "dVINEGARe-2e-3dSULFURdPHILOSOPHERS SULFURdBLACK SULFURdMERCURY SUBLIMATEf-2f-3dCINNABARd",
    "SALTdNITREdVITRIOLe-2dROCK SALTf-2dGOLDdSILVERdIRON OREf-2dCROCUS OF IRONdREGULUS OF IRONd",
    "COPPER OREdIRON-COPPER OREdSUBLIMATE OF COPPERdCROCUS OF COPPERg-2dCOPPER ANTIMONIATEdSALT",
    " OF COPPER ANTIMONIATEdSUBLIMATE OF SALT OF COPPERdVERDIGRISdTIN OREdLEAD OREdANTIMONY ORE",
    "dSUBLIMATE OF ANTIMONYdSALT OF ANTIMONYdSUBLIMATE OF SALT OF ANTIMONYdVINEGAR OF ANTIMONYd",
    "REGULUS OF ANTIMONYg-2dREGULUSe-2e-3e-4dALKALIe-2dMARCASITEdSAL-AMMONIACdARSENICdREALGARe-",
    "2dAURIPIGMENTdBISMUTH OREdTARTARe-2dQUICK LIMEdBORAXe-2e-3dALUMdOILdSPIRITdTINCTUREdGUMd",
    "WAXdPOWDERdCALXdTUTTYdCAPUT MORTUUMdSCEPTER OF JOVEdCADUCEUSdTRIDENTdSTARRED TRIDENTd",
    "LODESTONEdSOAPdURINEdHORSE DUNGdASHESdPOT ASHESdBRICKdPOWDERED BRICKdAMALGAMdSTRATUM SUPER",
    " STRATUMg-2dSUBLIMATIONdPRECIPITATEdDISTILLdDISSOLVEe-2dPURIFYdPUTREFACTIONdCRUCIBLEe-2e-3",
    "e-4e-5dALEMBICdBATH OF MARYfVAPOURSdRETORTdHOURdNIGHTdDAY-NIGHTdMONTHdHALF DRAMeOUNCE"]⟩,
  ⟨0x1F780, [
    "aBLACK LEFT-POINTING ISOSCELES RIGHT TRIANGLEbUP-POINTING ISOSCELES RIGHT TRIANGLEbRIGHT-",
    "POINTING ISOSCELES RIGHT TRIANGLEbDOWN-POINTING ISOSCELES RIGHT TRIANGLEbSLIGHTLY SMALL ",
    "CIRCLEaMEDIUM BOLD WHITE CIRCLEaBOLD WHITE CIRCLEaHEAVY WHITE CIRCLEaVERY HEAVY WHITE ",
    "CIRCLEaEXTREMELY HEAVY WHITE CIRCLEaWHITE CIRCLE CONTAINING BLACK SMALL CIRCLEaROUND ",
    "TARGETaBLACK TINY SQUAREbSLIGHTLY SMALL SQUAREaLIGHT WHITE SQUAREaMEDIUM WHITE SQUAREaBOLD",
    " WHITE SQUAREaHEAVY WHITE SQUAREaVERY HEAVY WHITE SQUAREaEXTREMELY HEAVY WHITE SQUAREa",
    "WHITE SQUARE CONTAINING BLACK VERY SMALL SQUAREeMEDIUM SQUAREaSQUARE TARGETaBLACK TINY ",
    "DIAMONDbVERY SMALL DIAMONDbMEDIUM SMALL DIAMONDaWHITE DIAMOND CONTAINING BLACK VERY SMALL ",
    "DIAMONDeMEDIUM DIAMONDaDIAMOND TARGETaBLACK TINY LOZENGEbVERY SMALL LOZENGEbMEDIUM SMALL ",
    "LOZENGEaWHITE LOZENGE CONTAINING BLACK SMALL LOZENGEaTHIN GREEK CROSSaLIGHT GREEK CROSSa",
    "MEDIUM GREEK CROSSaBOLD GREEK CROSSaVERY BOLD GREEK CROSSbHEAVY GREEK CROSSaEXTREMELY ",
    "HEAVY GREEK CROSSaTHIN SALTIREaLIGHT SALTIREaMEDIUM SALTIREaBOLD SALTIREaHEAVY SALTIREa",
    "VERY HEAVY SALTIREaEXTREMELY HEAVY SALTIREaLIGHT FIVE SPOKED ASTERISKaMEDIUM FIVE SPOKED ",
    "ASTERISKaBOLD FIVE SPOKED ASTERISKaHEAVY FIVE SPOKED ASTERISKaVERY HEAVY FIVE SPOKED ",
    "ASTERISKaEXTREMELY HEAVY FIVE SPOKED ASTERISKaLIGHT SIX SPOKED ASTERISKaMEDIUM SIX SPOKED ",
    "ASTERISKaBOLD SIX SPOKED ASTERISKaHEAVY SIX SPOKED ASTERISKaVERY HEAVY SIX SPOKED ASTERISK",
    "aEXTREMELY HEAVY SIX SPOKED ASTERISKaLIGHT EIGHT SPOKED ASTERISKaMEDIUM EIGHT SPOKED ",
    "ASTERISKaBOLD EIGHT SPOKED ASTERISKaHEAVY EIGHT SPOKED ASTERISKaVERY HEAVY EIGHT SPOKED ",
    "ASTERISKaLIGHT THREE POINTED BLACK STARaMEDIUM THREE POINTED BLACK STARaTHREE POINTED ",
    "BLACK STARaMEDIUM THREE POINTED PINWHEEL STARaLIGHT FOUR POINTED BLACK STARaMEDIUM FOUR ",
    "POINTED BLACK STARaFOUR POINTED BLACK STARaMEDIUM FOUR POINTED PINWHEEL STARaREVERSE LIGHT",
    " FOUR POINTED PINWHEEL STARaLIGHT FIVE POINTED BLACK STARaHEAVY FIVE POINTED BLACK STARa",
    "MEDIUM SIX POINTED BLACK STARaHEAVY SIX POINTED BLACK STARaSIX POINTED PINWHEEL STARa",
    "MEDIUM EIGHT POINTED BLACK STARaHEAVY EIGHT POINTED BLACK STARaVERY HEAVY EIGHT POINTED ",
    "BLACK STARaHEAVY EIGHT POINTED PINWHEEL STARaLIGHT TWELVE POINTED BLACK STARaHEAVY TWELVE ",
    "POINTED BLACK STARdPINWHEEL STARaCIRCLED TRIANGLEaNEGATIVE CIRCLED TRIANGLEaCIRCLED SQUARE",
    "aNEGATIVE CIRCLED SQUARE"]⟩,
  ⟨0x1F7E0, [
    "aLARGE ORANGE CIRCLEbYELLOW CIRCLEbGREEN CIRCLEbPURPLE CIRCLEbBROWN CIRCLEbRED SQUAREbBLUE",
    " SQUAREbORANGE SQUAREbYELLOW SQUAREbGREEN SQUAREbPURPLE SQUAREbBROWN SQUARE"]⟩,
  ⟨0x1F7F0, ["aHEAVY EQUALS SIGN"]⟩,
  ⟨0x1F800, [
    "aLEFTWARDS ARROW WITH SMALL TRIANGLE ARROWHEADaUPWARDS ARROW WITH SMALL TRIANGLE ARROWHEAD",
    "aRIGHTWARDS ARROW WITH SMALL TRIANGLE ARROWHEADaDOWNWARDS ARROW WITH SMALL TRIANGLE ",
    "ARROWHEADaLEFTWARDS ARROW WITH MEDIUM TRIANGLE ARROWHEADaUPWARDS ARROW WITH MEDIUM ",
    "TRIANGLE ARROWHEADaRIGHTWARDS ARROW WITH MEDIUM TRIANGLE ARROWHEADaDOWNWARDS ARROW WITH ",
    "MEDIUM TRIANGLE ARROWHEADaLEFTWARDS ARROW WITH LARGE TRIANGLE ARROWHEADaUPWARDS ARROW WITH",
    " LARGE TRIANGLE ARROWHEADaRIGHTWARDS ARROW WITH LARGE TRIANGLE ARROWHEADaDOWNWARDS ARROW ",
    "WITH LARGE TRIANGLE ARROWHEAD"]⟩,
  ⟨0x1F810, [
    "aLEFTWARDS ARROW WITH SMALL EQUILATERAL ARROWHEADaUPWARDS ARROW WITH SMALL EQUILATERAL ",
    "ARROWHEADaRIGHTWARDS ARROW WITH SMALL EQUILATERAL ARROWHEADaDOWNWARDS ARROW WITH SMALL ",
    "EQUILATERAL ARROWHEADaLEFTWARDS ARROW WITH EQUILATERAL ARROWHEADaUPWARDS ARROW WITH ",
    "EQUILATERAL ARROWHEADaRIGHTWARDS ARROW WITH EQUILATERAL ARROWHEADaDOWNWARDS ARROW WITH ",
    "EQUILATERAL ARROWHEADaHEAVY LEFTWARDS ARROW WITH EQUILATERAL ARROWHEADbUPWARDS ARROW WITH ",
    "EQUILATERAL ARROWHEADbRIGHTWARDS ARROW WITH EQUILATERAL ARROWHEADbDOWNWARDS ARROW WITH ",
    "EQUILATERAL ARROWHEADbLEFTWARDS ARROW WITH LARGE EQUILATERAL ARROWHEADbUPWARDS ARROW WITH ",
    "LARGE EQUILATERAL ARROWHEADbRIGHTWARDS ARROW WITH LARGE EQUILATERAL ARROWHEADbDOWNWARDS ",
    "ARROW WITH LARGE EQUILATERAL ARROWHEADaLEFTWARDS TRIANGLE-HEADED ARROW WITH NARROW SHAFTa",
    "UPWARDS TRIANGLE-HEADED ARROW WITH NARROW SHAFTaRIGHTWARDS TRIANGLE-HEADED ARROW WITH ",
    "NARROW SHAFTaDOWNWARDS TRIANGLE-HEADED ARROW WITH NARROW SHAFTaLEFTWARDS TRIANGLE-HEADED ",
    "ARROW WITH MEDIUM SHAFTaUPWARDS TRIANGLE-HEADED ARROW WITH MEDIUM SHAFTaRIGHTWARDS ",
    "TRIANGLE-HEADED ARROW WITH MEDIUM SHAFTaDOWNWARDS TRIANGLE-HEADED ARROW WITH MEDIUM SHAFTa",
    "LEFTWARDS TRIANGLE-HEADED ARROW WITH BOLD SHAFTaUPWARDS TRIANGLE-HEADED ARROW WITH BOLD ",
    "SHAFTaRIGHTWARDS TRIANGLE-HEADED ARROW WITH BOLD SHAFTaDOWNWARDS TRIANGLE-HEADED ARROW ",
    "WITH BOLD SHAFTaLEFTWARDS TRIANGLE-HEADED ARROW WITH HEAVY SHAFTaUPWARDS TRIANGLE-HEADED ",
    "ARROW WITH HEAVY SHAFTaRIGHTWARDS TRIANGLE-HEADED ARROW WITH HEAVY SHAFTaDOWNWARDS ",
    "TRIANGLE-HEADED ARROW WITH HEAVY SHAFTaLEFTWARDS TRIANGLE-HEADED ARROW WITH VERY HEAVY ",
    "SHAFTaUPWARDS TRIANGLE-HEADED ARROW WITH VERY HEAVY SHAFTaRIGHTWARDS TRIANGLE-HEADED ARROW",
    " WITH VERY HEAVY SHAFTaDOWNWARDS TRIANGLE-HEADED ARROW WITH VERY HEAVY SHAFTaLEFTWARDS ",
    "FINGER-POST ARROWaUPWARDS FINGER-POST ARROWaRIGHTWARDS FINGER-POST ARROWaDOWNWARDS FINGER-",
    "POST ARROWaLEFTWARDS SQUARED ARROWaUPWARDS SQUARED ARROWaRIGHTWARDS SQUARED ARROWa",
    "DOWNWARDS SQUARED ARROWaLEFTWARDS COMPRESSED ARROWaUPWARDS COMPRESSED ARROWaRIGHTWARDS ",
    "COMPRESSED ARROWaDOWNWARDS COMPRESSED ARROWaLEFTWARDS HEAVY COMPRESSED ARROWaUPWARDS HEAVY",
    " COMPRESSED ARROWaRIGHTWARDS HEAVY COMPRESSED ARROWaDOWNWARDS HEAVY COMPRESSED ARROWa",
    "LEFTWARDS HEAVY ARROWaUPWARDS HEAVY ARROWaRIGHTWARDS HEAVY ARROWaDOWNWARDS HEAVY ARROW"]⟩,
  ⟨0x1F850, [
    "aLEFTWARDS SANS-SERIF ARROWaUPWARDS SANS-SERIF ARROWaRIGHTWARDS SANS-SERIF ARROWaDOWNWARDS",
    " SANS-SERIF ARROWaNORTH WEST SANS-SERIF ARROWbEAST SANS-SERIF ARROWaSOUTH EAST SANS-SERIF ",
    "ARROWbWEST SANS-SERIF ARROWaLEFT RIGHT SANS-SERIF ARROWaUP DOWN SANS-SERIF ARROW"]⟩,
  ⟨0x1F860, [
    "aWIDE-HEADED LEFTWARDS LIGHT BARB ARROWcUPWARDS LIGHT BARB ARROWcRIGHTWARDS LIGHT BARB ",
    "ARROWcDOWNWARDS LIGHT BARB ARROWcNORTH WEST LIGHT BARB ARROWdEAST LIGHT BARB ARROWcSOUTH ",
    "EAST LIGHT BARB ARROWdWEST LIGHT BARB ARROWcLEFTWARDS BARB ARROWcUPWARDS BARB ARROWc",
    "RIGHTWARDS BARB ARROWcDOWNWARDS BARB ARROWcNORTH WEST BARB ARROWdEAST BARB ARROWcSOUTH ",
    "EAST BARB ARROWdWEST BARB ARROWcLEFTWARDS MEDIUM BARB ARROWcUPWARDS MEDIUM BARB ARROWc",
    "RIGHTWARDS MEDIUM BARB ARROWcDOWNWARDS MEDIUM BARB ARROWcNORTH WEST MEDIUM BARB ARROWdEAST",
    " MEDIUM BARB ARROWcSOUTH EAST MEDIUM BARB ARROWdWEST MEDIUM BARB ARROWcLEFTWARDS HEAVY ",
    "BARB ARROWcUPWARDS HEAVY BARB ARROWcRIGHTWARDS HEAVY BARB ARROWcDOWNWARDS HEAVY BARB ARROW",
    "cNORTH WEST HEAVY BARB ARROWdEAST HEAVY BARB ARROWcSOUTH EAST HEAVY BARB ARROWdWEST HEAVY ",
    "BARB ARROWcLEFTWARDS VERY HEAVY BARB ARROWcUPWARDS VERY HEAVY BARB ARROWcRIGHTWARDS VERY ",
    "HEAVY BARB ARROWcDOWNWARDS VERY HEAVY BARB ARROWcNORTH WEST VERY HEAVY BARB ARROWdEAST ",
    "VERY HEAVY BARB ARROWcSOUTH EAST VERY HEAVY BARB ARROWdWEST VERY HEAVY BARB ARROW"]⟩,
  ⟨0x1F890, [
    "aLEFTWARDS TRIANGLE ARROWHEADaUPWARDS TRIANGLE ARROWHEADaRIGHTWARDS TRIANGLE ARROWHEADa",
    "DOWNWARDS TRIANGLE ARROWHEADaLEFTWARDS WHITE ARROW WITHIN TRIANGLE ARROWHEADaUPWARDS WHITE",
    " ARROW WITHIN TRIANGLE ARROWHEADaRIGHTWARDS WHITE ARROW WITHIN TRIANGLE ARROWHEADa",
    "DOWNWARDS WHITE ARROW WITHIN TRIANGLE ARROWHEADaLEFTWARDS ARROW WITH NOTCHED TAILaUPWARDS ",
    "ARROW WITH NOTCHED TAILaRIGHTWARDS ARROW WITH NOTCHED TAILaDOWNWARDS ARROW WITH NOTCHED ",
    "TAILaHEAVY ARROW SHAFT WIDTH ONEeTWO THIRDSeONE HALFfTHIRDaLEFTWARDS BOTTOM-SHADED WHITE ",
    "ARROWaRIGHTWARDS BOTTOM SHADED WHITE ARROWaLEFTWARDS TOP SHADED WHITE ARROWaRIGHTWARDS TOP",
    " SHADED WHITE ARROWaLEFTWARDS LEFT-SHADED WHITE ARROWaRIGHTWARDS RIGHT-SHADED WHITE ARROWa",
    "LEFTWARDS RIGHT-SHADED WHITE ARROWaRIGHTWARDS LEFT-SHADED WHITE ARROWaLEFTWARDS BACK-",
    "TILTED SHADOWED WHITE ARROWaRIGHTWARDS BACK-TILTED SHADOWED WHITE ARROWaLEFTWARDS FRONT-",
    "TILTED SHADOWED WHITE ARROWaRIGHTWARDS FRONT-TILTED SHADOWED WHITE ARROWaWHITE ARROW SHAFT",
    " WIDTH ONEeTWO THIRDS"]⟩,
  ⟨0x1F8B0, [
    "aARROW POINTING UPWARDS THEN NORTH WESTcRIGHTWARDS THEN CURVING SOUTH WEST"]⟩,
  ⟨0x1F900, [
    "aCIRCLED CROSS FORMEE WITH FOUR DOTSeTWO DOTScFORMEEaLEFT HALF CIRCLE WITH FOUR DOTSeTHREE",
    " DOTSeTWO DOTSeDOTcCIRCLEaDOWNWARD FACING HOOKcNOTCHED HOOKcHOOK WITH DOTcNOTCHED HOOK ",
    "WITH DOTaPINCHED FINGERSaWHITE HEARTaBROWN HEARTaPINCHING HANDaZIPPER-MOUTH FACEaMONEY-",
    "MOUTH FACEaFACE WITH THERMOMETERaNERD FACEaTHINKING FACEaFACE WITH HEAD-BANDAGEaROBOT FACE",
    "aHUGGING FACEaSIGN OF THE HORNSaCALL ME HANDaRAISED BACK OF HANDaLEFT-FACING FISTaRIGHT-",
    "FACING FISTaHANDSHAKEaHAND WITH INDEX AND MIDDLE FINGERS CROSSEDaI LOVE YOU HAND SIGNaFACE",
    " WITH COWBOY HATaCLOWN FACEaNAUSEATED FACEaROLLING ON THE FLOOR LAUGHINGaDROOLING FACEa",
    "LYING FACEaFACE PALMaSNEEZING FACEaFACE WITH ONE EYEBROW RAISEDaGRINNING FACE WITH STAR ",
    "EYESdONE LARGE AND ONE SMALL EYEaFACE WITH FINGER COVERING CLOSED LIPSaSERIOUS FACE WITH ",
    "SYMBOLS COVERING MOUTHaSMILING FACE WITH SMILING EYES AND HAND COVERING MOUTHaFACE WITH ",
    "OPEN MOUTH VOMITINGaSHOCKED FACE WITH EXPLODING HEADaPREGNANT WOMANaBREAST-FEEDINGaPALMS ",
    "UP TOGETHERaSELFIEaPRINCEaMAN IN TUXEDOaMOTHER CHRISTMASaSHRUGaPERSON DOING CARTWHEELa",
    "JUGGLINGaFENCERaMODERN PENTATHLONaWRESTLERSaWATER POLOaHANDBALLaDIVING MASKaWILTED FLOWERa",
    "DRUM WITH DRUMSTICKSaCLINKING GLASSESaTUMBLER GLASSaSPOONaGOAL NETaRIFLEaFIRST PLACE MEDAL",
    "aSECOND PLACE MEDALaTHIRD PLACE MEDALaBOXING GLOVEaMARTIAL ARTS UNIFORMaCURLING STONEa",
    "LACROSSE STICK AND BALLaSOFTBALLaFLYING DISCaCROISSANTaAVOCADOaCUCUMBERaBACONaPOTATOa",
    "CARROTaBAGUETTE BREADaGREEN SALADaSHALLOW PAN OF FOODaSTUFFED FLATBREADaEGGaGLASS OF MILKa",
    "PEANUTSaKIWIFRUITaPANCAKESaDUMPLINGaFORTUNE COOKIEaTAKEOUT BOXaCHOPSTICKSaBOWL WITH SPOONa",
    "CUP WITH STRAWaCOCONUTaBROCCOLIaPIEaPRETZELaCUT OF MEATaSANDWICHaCANNED FOODaLEAFY GREENa",
    "MANGOaMOON CAKEaBAGELaSMILING FACE WITH SMILING EYES AND THREE HEARTSaYAWNING FACEaSMILING",
    " FACE WITH TEARaFACE WITH PARTY HORN AND PARTY HATcUNEVEN EYES AND WAVY MOUTHaOVERHEATED ",
    "FACEaFREEZING FACEaNINJAaDISGUISED FACEaFACE HOLDING BACK TEARSbWITH PLEADING EYESaSARIa",
    "LAB COATaGOGGLESaHIKING BOOTaFLAT SHOEaCRABaLION FACEaSCORPIONaTURKEYaUNICORN FACEaEAGLEa",
    "DUCKaBATaSHARKaOWLaFOX FACEaBUTTERFLYaDEERaGORILLAaLIZARDaRHINOCEROSaSHRIMPaSQUIDaGIRAFFE ",
    "FACEaZEBRA FACEaHEDGEHOGaSAUROPODaT-REXaCRICKETaKANGAROOaLLAMAaPEACOCKaHIPPOPOTAMUSaPARROT",
    "aRACCOONaLOBSTERaMOSQUITOaMICROBEaBADGERaSWANaMAMMOTHaDODOaSLOTHaOTTERaORANGUTANaSKUNKa",
    "FLAMINGOaOYSTERaBEAVERaBISONaSEALaGUIDE DOGaPROBING CANEaEMOJI COMPONENT RED HAIRcCURLY ",
    "HAIRcBALDcWHITE HAIRaBONEaLEGaFOOTaTOOTHaSUPERHEROaSUPERVILLAINaSAFETY VESTaEAR WITH ",
    "HEARING AIDaMOTORIZED WHEELCHAIRaMANUAL WHEELCHAIRaMECHANICAL ARMbLEGaCHEESE WEDGEaCUPCAKE",
    "aSALT SHAKERaBEVERAGE BOXaGARLICaONIONaFALAFELaWAFFLEaBUTTERaMATE DRINKaICE CUBEaBUBBLE ",
    "TEAaTROLLaSTANDING PERSONaKNEELING PERSONaDEAF PERSONaFACE WITH MONOCLEaADULTaCHILDaOLDER ",
    "ADULTaBEARDED PERSONaPERSON WITH HEADSCARFbIN STEAMY ROOMbCLIMBINGbIN LOTUS POSITIONaMAGEa",
    "FAIRYaVAMPIREaMERPERSONaELFaGENIEaZOMBIEaBRAINaORANGE HEARTaBILLED CAPaSCARFaGLOVESaCOATa",
    "SOCKSaRED GIFT ENVELOPEaFIRECRACKERaJIGSAW PUZZLE PIECEaTEST TUBEaPETRI DISHaDNA DOUBLE ",
    "HELIXaCOMPASSaABACUSaFIRE EXTINGUISHERaTOOLBOXaBRICKaMAGNETaLUGGAGEaLOTION BOTTLEaSPOOL OF",
    " THREADaBALL OF YARNaSAFETY PINaTEDDY BEARaBROOMaBASKETaROLL OF PAPERaBAR OF SOAPaSPONGEa",
    "RECEIPTaNAZAR AMULETaNEUTRAL CHESS KINGcQUEENcROOKcBISHOPcKNIGHTcPAWNaWHITE CHESS KNIGHT ",
    "ROTATED FORTY-FIVE DEGREESaBLACK CHESS KNIGHT ROTATED FORTY-FIVE DEGREESaNEUTRAL CHESS ",
    "KNIGHT ROTATED FORTY-FIVE DEGREESaWHITE CHESS KING ROTATED NINETY DEGREEScQUEEN ROTATED ",
    "NINETY DEGREEScROOK ROTATED NINETY DEGREEScBISHOP ROTATED NINETY DEGREEScKNIGHT ROTATED ",
    "NINETY DEGREEScPAWN ROTATED NINETY DEGREESaBLACK CHESS KING ROTATED NINETY DEGREEScQUEEN ",
    "ROTATED NINETY DEGREEScROOK ROTATED NINETY DEGREEScBISHOP ROTATED NINETY DEGREEScKNIGHT ",
    "ROTATED NINETY DEGREEScPAWN ROTATED NINETY DEGREESaNEUTRAL CHESS KING ROTATED NINETY ",
    "DEGREEScQUEEN ROTATED NINETY DEGREEScROOK ROTATED NINETY DEGREEScBISHOP ROTATED NINETY ",
    "DEGREEScKNIGHT ROTATED NINETY DEGREEScPAWN ROTATED NINETY DEGREESaWHITE CHESS KNIGHT ",
    "ROTATED ONE HUNDRED THIRTY-FIVE DEGREESaBLACK CHESS KNIGHT ROTATED ONE HUNDRED THIRTY-FIVE",
    " DEGREESaNEUTRAL CHESS KNIGHT ROTATED ONE HUNDRED THIRTY-FIVE DEGREESaWHITE CHESS TURNED ",
    "KINGdQUEENdROOKdBISHOPdKNIGHTdPAWNaBLACK CHESS TURNED KINGdQUEENdROOKdBISHOPdKNIGHTdPAWNa",
    "NEUTRAL CHESS TURNED KINGdQUEENdROOKdBISHOPdKNIGHTdPAWNaWHITE CHESS KNIGHT ROTATED TWO ",
    "HUNDRED TWENTY-FIVE DEGREESaBLACK CHESS KNIGHT ROTATED TWO HUNDRED TWENTY-FIVE DEGREESa",
    "NEUTRAL CHESS KNIGHT ROTATED TWO HUNDRED TWENTY-FIVE DEGREESaWHITE CHESS KING ROTATED TWO ",
    "HUNDRED SEVENTY DEGREEScQUEEN ROTATED TWO HUNDRED SEVENTY DEGREEScROOK ROTATED TWO HUNDRED",
    " SEVENTY DEGREEScBISHOP ROTATED TWO HUNDRED SEVENTY DEGREEScKNIGHT ROTATED TWO HUNDRED ",
    "SEVENTY DEGREEScPAWN ROTATED TWO HUNDRED SEVENTY DEGREESaBLACK CHESS KING ROTATED TWO ",
    "HUNDRED SEVENTY DEGREEScQUEEN ROTATED TWO HUNDRED SEVENTY DEGREEScROOK ROTATED TWO HUNDRED",
    " SEVENTY DEGREEScBISHOP ROTATED TWO HUNDRED SEVENTY DEGREEScKNIGHT ROTATED TWO HUNDRED ",
    "SEVENTY DEGREEScPAWN ROTATED TWO HUNDRED SEVENTY DEGREESaNEUTRAL CHESS KING ROTATED TWO ",
    "HUNDRED SEVENTY DEGREEScQUEEN ROTATED TWO HUNDRED SEVENTY DEGREEScROOK ROTATED TWO HUNDRED",
    " SEVENTY DEGREEScBISHOP ROTATED TWO HUNDRED SEVENTY DEGREEScKNIGHT ROTATED TWO HUNDRED ",
    "SEVENTY DEGREEScPAWN ROTATED TWO HUNDRED SEVENTY DEGREESaWHITE CHESS KNIGHT ROTATED THREE ",
    "HUNDRED FIFTEEN DEGREESaBLACK CHESS KNIGHT ROTATED THREE HUNDRED FIFTEEN DEGREESaNEUTRAL ",
    "CHESS KNIGHT ROTATED THREE HUNDRED FIFTEEN DEGREESaWHITE CHESS EQUIHOPPERaBLACK CHESS ",
    "EQUIHOPPERaNEUTRAL CHESS EQUIHOPPERaWHITE CHESS EQUIHOPPER ROTATED NINETY DEGREESaBLACK ",
    "CHESS EQUIHOPPER ROTATED NINETY DEGREESaNEUTRAL CHESS EQUIHOPPER ROTATED NINETY DEGREESa",
    "WHITE CHESS KNIGHT-QUEENd-ROOKd-BISHOPaBLACK CHESS KNIGHT-QUEENd-ROOKd-BISHOP"]⟩,
  ⟨0x1FA60, [
    "aXIANGQI RED GENERALcMANDARINcELEPHANTcHORSEcCHARIOTcCANNONcSOLDIERbBLACK GENERALcMANDARIN",
    "cELEPHANTcHORSEcCHARIOTcCANNONcSOLDIER"]⟩,
  ⟨0x1FA70, ["aBALLET SHOESaONE-PIECE SWIMSUITaBRIEFSaSHORTSaTHONG SANDAL"]⟩,
  ⟨0x1FA78, ["aDROP OF BLOODaADHESIVE BANDAGEaSTETHOSCOPEaX-RAYaCRUTCH"]⟩,
  ⟨0x1FA80, ["aYO-YOaKITEaPARACHUTEaBOOMERANGaMAGIC WANDaPINATAaNESTING DOLLS"]⟩,
  ⟨0x1FA90, [
    "aRINGED PLANETaCHAIRaRAZORaAXEaDIYA LAMPaBANJOaMILITARY HELMETaACCORDIONaLONG DRUMaCOINa",
    "CARPENTRY SAWaSCREWDRIVERaLADDERaHOOKaMIRRORaWINDOWaPLUNGERaSEWING NEEDLEaKNOTaBUCKETa",
    "MOUSE TRAPaTOOTHBRUSHaHEADSTONEaPLACARDaROCKaMIRROR BALLaIDENTIFICATION CARDaLOW BATTERYa",
    "HAMSA"]⟩,
  ⟨0x1FAB0, [
    "aFLYaWORMaBEETLEaCOCKROACHaPOTTED PLANTaWOODaFEATHERaLOTUSaCORALaEMPTY NESTaNEST WITH EGGS"]⟩,
  ⟨0x1FAC0, [
    "aANATOMICAL HEARTaLUNGSaPEOPLE HUGGINGaPREGNANT MANbPERSONaPERSON WITH CROWN"]⟩,
  ⟨0x1FAD0, [
    "aBLUEBERRIESaBELL PEPPERaOLIVEaFLATBREADaTAMALEaFONDUEaTEAPOTaPOURING LIQUIDaBEANSaJAR"]⟩,
  ⟨0x1FAE0, [
    "aMELTING FACEaSALUTING FACEaFACE WITH OPEN EYES AND HAND OVER MOUTHcPEEKING EYEcDIAGONAL ",
    "MOUTHaDOTTED LINE FACEaBITING LIPaBUBBLES"]⟩,
  ⟨0x1FAF0, [
    "aHAND WITH INDEX FINGER AND THUMB CROSSEDaRIGHTWARDS HANDaLEFTWARDS HANDaPALM DOWN HANDbUP",
    " HANDaINDEX POINTING AT THE VIEWERaHEART HANDS"]⟩,
  ⟨0x1FB00, [
    "aBLOCK SEXTANT-1c-2c-12c-3c-13c-23c-123c-4c-14c-24c-124c-34c-134c-234c-1234c-5c-15c-25c-",
    "125c-35c-235c-1235c-45c-145c-245c-1245c-345c-1345c-2345c-12345c-6c-16c-26c-126c-36c-136c-",
    "236c-1236c-46c-146c-1246c-346c-1346c-2346c-12346c-56c-156c-256c-1256c-356c-1356c-2356c-",
    "12356c-456c-1456c-2456c-12456c-3456c-13456c-23456aLOWER LEFT BLOCK DIAGONAL LOWER MIDDLE ",
    "LEFT TO LOWER CENTREjRIGHTeUPPER MIDDLE LEFT TO LOWER CENTREjRIGHTfLEFT TO LOWER CENTREb",
    "RIGHT BLOCK DIAGONAL UPPER MIDDLE LEFT TO UPPER CENTREjRIGHTeLOWER MIDDLE LEFT TO UPPER ",
    "CENTREjRIGHTfLEFT TO UPPER CENTREfMIDDLE LEFT TO UPPER MIDDLE RIGHTfCENTRE TO LOWER MIDDLE",
    " RIGHTfLEFT TO LOWER MIDDLE RIGHTfCENTRE TO UPPER MIDDLE RIGHTfLEFT TO UPPER MIDDLE RIGHTf",
    "CENTRE TO UPPER RIGHTbLEFT BLOCK DIAGONAL UPPER CENTRE TO UPPER MIDDLE RIGHTfLEFT TO UPPER",
    " MIDDLE RIGHTfCENTRE TO LOWER MIDDLE RIGHTfLEFT TO LOWER MIDDLE RIGHTfCENTRE TO LOWER ",
    "RIGHTfMIDDLE LEFT TO LOWER MIDDLE RIGHTaUPPER RIGHT BLOCK DIAGONAL LOWER MIDDLE LEFT TO ",
    "LOWER CENTREjRIGHTeUPPER MIDDLE LEFT TO LOWER CENTREjRIGHTfLEFT TO LOWER CENTREbLEFT BLOCK",
    " DIAGONAL UPPER MIDDLE LEFT TO UPPER CENTREjRIGHTeLOWER MIDDLE LEFT TO UPPER CENTREjRIGHTf",
    "LEFT TO UPPER CENTREfMIDDLE LEFT TO UPPER MIDDLE RIGHTfCENTRE TO LOWER MIDDLE RIGHTfLEFT ",
    "TO LOWER MIDDLE RIGHTfCENTRE TO UPPER MIDDLE RIGHTfLEFT TO UPPER MIDDLE RIGHTfCENTRE TO ",
    "UPPER RIGHTbRIGHT BLOCK DIAGONAL UPPER CENTRE TO UPPER MIDDLE RIGHTfLEFT TO UPPER MIDDLE ",
    "RIGHTfCENTRE TO LOWER MIDDLE RIGHTfLEFT TO LOWER MIDDLE RIGHTfCENTRE TO LOWER RIGHTfMIDDLE",
    " LEFT TO LOWER MIDDLE RIGHTbAND RIGHT AND LOWER TRIANGULAR THREE QUARTERS BLOCKaLEFT AND ",
    "LOWER AND RIGHT TRIANGULAR THREE QUARTERS BLOCKaUPPER AND LEFT AND LOWER TRIANGULAR THREE ",
    "QUARTERS BLOCKaLEFT AND UPPER AND RIGHT TRIANGULAR THREE QUARTERS BLOCKbTRIANGULAR ONE ",
    "QUARTER BLOCKaUPPER TRIANGULAR ONE QUARTER BLOCKaRIGHT TRIANGULAR ONE QUARTER BLOCKaLOWER ",
    "TRIANGULAR ONE QUARTER BLOCKaVERTICAL ONE EIGHTH BLOCK-2e-3e-4e-5e-6e-7aHORIZONTAL ONE ",
    "EIGHTH BLOCK-2e-3e-4e-5e-6e-7aLEFT AND LOWER ONE EIGHTH BLOCKcUPPER ONE EIGHTH BLOCKaRIGHT",
    " AND UPPER ONE EIGHTH BLOCKcLOWER ONE EIGHTH BLOCKaUPPER AND LOWER ONE EIGHTH BLOCKa",
    "HORIZONTAL ONE EIGHTH BLOCK-1358aUPPER ONE QUARTER BLOCKbTHREE EIGHTHS BLOCKbFIVE EIGHTHS ",
    "BLOCKbTHREE QUARTERS BLOCKbSEVEN EIGHTHS BLOCKaRIGHT ONE QUARTER BLOCKbTHREE EIGHTHS BLOCK",
    "bFIVE EIGHTHS BLOCKbTHREE QUARTERS BLOCKbSEVEN EIGHTHS BLOCKaLEFT HALF MEDIUM SHADEaRIGHT ",
    "HALF MEDIUM SHADEaUPPER HALF MEDIUM SHADEaLOWER HALF MEDIUM SHADEaINVERSE MEDIUM SHADEa",
    "UPPER HALF BLOCK AND LOWER HALF INVERSE MEDIUM SHADEcINVERSE MEDIUM SHADE AND LOWER HALF ",
    "BLOCK"]⟩,
  ⟨0x1FB94, [
    "aLEFT HALF INVERSE MEDIUM SHADE AND RIGHT HALF BLOCKaCHECKER BOARD FILLaINVERSE CHECKER ",
    "BOARD FILLaHEAVY HORIZONTAL FILLaUPPER LEFT TO LOWER RIGHT FILLbRIGHT TO LOWER LEFT FILLb",
    "AND LOWER TRIANGULAR HALF BLOCKaLEFT AND RIGHT TRIANGULAR HALF BLOCKaUPPER LEFT TRIANGULAR",
    " MEDIUM SHADEbRIGHT TRIANGULAR MEDIUM SHADEaLOWER RIGHT TRIANGULAR MEDIUM SHADEbLEFT ",
    "TRIANGULAR MEDIUM SHADEaBOX DRAWINGS LIGHT DIAGONAL UPPER CENTRE TO MIDDLE LEFTiRIGHTe",
    "MIDDLE LEFT TO LOWER CENTREfRIGHT TO LOWER CENTREeUPPER CENTRE TO MIDDLE LEFT TO LOWER ",
    "CENTREiRIGHT TO LOWER CENTREeMIDDLE LEFT TO LOWER CENTRE TO MIDDLE RIGHThUPPER CENTRE TO ",
    "MIDDLE RIGHTeUPPER CENTRE TO MIDDLE LEFT AND MIDDLE RIGHT TO LOWER CENTREiRIGHT AND MIDDLE",
    " LEFT TO LOWER CENTREjTO LOWER CENTRE TO MIDDLE LEFTiLEFT TO LOWER CENTRE TO MIDDLE RIGHTe",
    "MIDDLE LEFT TO UPPER CENTRE TO MIDDLE RIGHT TO LOWER CENTREfRIGHT TO UPPER CENTRE TO ",
    "MIDDLE LEFT TO LOWER CENTREeDIAMONDdHORIZONTAL WITH VERTICAL STROKEaARROWHEAD-SHAPED ",
    "POINTERaINVERSE CHECK MARKaLEFT HALF RUNNING MANaRIGHT HALF RUNNING MANaINVERSE DOWNWARDS ",
    "ARROW WITH TIP LEFTWARDSaLEFTWARDS ARROW AND UPPER AND LOWER ONE EIGHTH BLOCKaRIGHTWARDS ",
    "ARROW AND UPPER AND LOWER ONE EIGHTH BLOCKaDOWNWARDS ARROW AND RIGHT ONE EIGHTH BLOCKa",
    "UPWARDS ARROW AND RIGHT ONE EIGHTH BLOCKaLEFT HALF FOLDERaRIGHT HALF FOLDERaVOIDED GREEK ",
    "CROSSaRIGHT OPEN SQUARED DOTaNEGATIVE DIAGONAL CROSScMIDDLE RIGHT TO LOWER CENTREcDIAMONDa",
    "WHITE HEAVY SALTIRE WITH ROUNDED CORNERSaLEFT THIRD WHITE RIGHT POINTING INDEXaMIDDLE ",
    "THIRD WHITE RIGHT POINTING INDEXaRIGHT THIRD WHITE RIGHT POINTING INDEXaNEGATIVE SQUARED ",
    "QUESTION MARKaSTICK FIGUREcWITH ARMS RAISEDcLEANING LEFTdRIGHTcWITH DRESSaWHITE UP-",
    "POINTING CHEVRON"]⟩,
  ⟨0x1FBF0, ["aSEGMENTED DIGIT ZEROcONEcTWOcTHREEcFOURcFIVEcSIXcSEVENcEIGHTcNINE"]⟩,
  ⟨0xE0001, ["aLANGUAGE TAG"]⟩,
  ⟨0xE0020, [
    "aTAG SPACEbEXCLAMATION MARKbQUOTATION MARKbNUMBER SIGNbDOLLAR SIGNbPERCENT SIGNbAMPERSANDb",
    "APOSTROPHEbLEFT PARENTHESISbRIGHT PARENTHESISbASTERISKbPLUS SIGNbCOMMAbHYPHEN-MINUSbFULL ",
    "STOPbSOLIDUSbDIGIT ZEROcONEcTWOcTHREEcFOURcFIVEcSIXcSEVENcEIGHTcNINEbCOLONbSEMICOLONbLESS-",
    "THAN SIGNbEQUALS SIGNbGREATER-THAN SIGNbQUESTION MARKbCOMMERCIAL ATbLATIN CAPITAL LETTER A",
    "eBeCeDeEeFeGeHeIeJeKeLeMeNeOePeQeReSeTeUeVeWeXeYeZbLEFT SQUARE BRACKETbREVERSE SOLIDUSb",
    "RIGHT SQUARE BRACKETbCIRCUMFLEX ACCENTbLOW LINEbGRAVE ACCENTbLATIN SMALL LETTER AeBeCeDeEe",
    "FeGeHeIeJeKeLeMeNeOePeQeReSeTeUeVeWeXeYeZbLEFT CURLY BRACKETbVERTICAL LINEbRIGHT CURLY ",
    "BRACKETbTILDEaCANCEL TAG"]⟩,
  ⟨0xE0100, [
    "aVARIATION SELECTOR-17c-18c-19c-20c-21c-22c-23c-24c-25c-26c-27c-28c-29c-30c-31c-32c-33c-34",
    "c-35c-36c-37c-38c-39c-40c-41c-42c-43c-44c-45c-46c-47c-48c-49c-50c-51c-52c-53c-54c-55c-56c-",
    "57c-58c-59c-60c-61c-62c-63c-64c-65c-66c-67c-68c-69c-70c-71c-72c-73c-74c-75c-76c-77c-78c-79",
    "c-80c-81c-82c-83c-84c-85c-86c-87c-88c-89c-90c-91c-92c-93c-94c-95c-96c-97c-98c-99c-100c-101",
    "c-102c-103c-104c-105c-106c-107c-108c-109c-110c-111c-112c-113c-114c-115c-116c-117c-118c-119",
    "c-120c-121c-122c-123c-124c-125c-126c-127c-128c-129c-130c-131c-132c-133c-134c-135c-136c-137",
    "c-138c-139c-140c-141c-142c-143c-144c-145c-146c-147c-148c-149c-150c-151c-152c-153c-154c-155",
    "c-156c-157c-158c-159c-160c-161c-162c-163c-164c-165c-166c-167c-168c-169c-170c-171c-172c-173",
    "c-174c-175c-176c-177c-178c-179c-180c-181c-182c-183c-184c-185c-186c-187c-188c-189c-190c-191",
    "c-192c-193c-194c-195c-196c-197c-198c-199c-200c-201c-202c-203c-204c-205c-206c-207c-208c-209",
    "c-210c-211c-212c-213c-214c-215c-216c-217c-218c-219c-220c-221c-222c-223c-224c-225c-226c-227",
    "c-228c-229c-230c-231c-232c-233c-234c-235c-236c-237c-238c-239c-240c-241c-242c-243c-244c-245",
    "c-246c-247c-248c-249c-250c-251c-252c-253c-254c-255c-256"]⟩]

end ActionRouting.Text.CharName
