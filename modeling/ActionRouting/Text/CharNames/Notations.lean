import ActionRouting.Text.CharName

/-! The names of the signs of music, mathematics and sign writing. -/
namespace ActionRouting.Text.CharName

/-- The names of the signs of music, mathematics and sign writing. -/
def notations : List NameRun := [
  ⟨0x1D000, [
    "aBYZANTINE MUSICAL SYMBOL PSILIdDASEIAdPERISPOMENIdOXEIA EKFONITIKONeDIPLIdVAREIA ",
    "EKFONITIKONeDIPLIdKATHISTIdSYRMATIKIdPARAKLITIKIdYPOKRISISeDIPLIdKREMASTIdAPESO ",
    "EKFONITIKONdEXO EKFONITIKONdTELEIAdKENTIMATAdAPOSTROFOSeDIPLIdSYNEVMAdTHITAdOLIGON ",
    "ARCHAIONdGORGON ARCHAIONdPSILONdCHAMILONdVATHYdISON ARCHAIONdKENTIMA ARCHAIONdKENTIMATA ",
    "ARCHAIONdSAXIMATAdPARICHONdSTAVROS APODEXIAdOXEIAI ARCHAIONdVAREIAI ARCHAIONdAPODERMA ",
    "ARCHAIONdAPOTHEMAdKLASMAdREVMAdPIASMA ARCHAIONdTINAGMAdANATRICHISMAdSEISMAdSYNAGMA ",
    "ARCHAIONeMETA STAVROUdOYRANISMA ARCHAIONdTHEMAdLEMOIdDYOdTRIAdTESSERAdKRATIMATAdAPESO EXO ",
    "NEOdFTHORA ARCHAIONdIMIFTHORAdTROMIKON ARCHAIONdKATAVA TROMIKONdPELASTONdPSIFISTONd",
    "KONTEVMAdCHOREVMA ARCHAIONdRAPISMAdPARAKALESMA ARCHAIONdPARAKLITIKI ARCHAIONdICHADINdNANAd",
    "PETASMAdKONTEVMA ALLOdTROMIKON ALLOdSTRAGGISMATAdGRONTHISMATAdISON NEOdOLIGON NEOdOXEIA ",
    "NEOdPETASTIdKOUFISMAdPETASTOKOUFISMAdKRATIMOKOUFISMAdPELASTON NEOdKENTIMATA NEO ANOd",
    "KENTIMA NEO ANOdYPSILIdAPOSTROFOS NEOdAPOSTROFOI SYNDESMOS NEOdYPORROIdKRATIMOYPORROONd",
    "ELAFRONdCHAMILIdMIKRON ISONdVAREIA NEOdPIASMA NEOdPSIFISTON NEOdOMALONdANTIKENOMAdLYGISMAd",
    "PARAKLITIKI NEOdPARAKALESMA NEOdETERON PARAKALESMAdKYLISMAdANTIKENOKYLISMAdTROMIKON NEOd",
    "EKSTREPTONdSYNAGMA NEOdSYRMAdCHOREVMA NEOdEPEGERMAdSEISMA NEOdXIRON KLASMAd",
    "TROMIKOPSIFISTONdPSIFISTOLYGISMAdTROMIKOLYGISMAdTROMIKOPARAKALESMAdPSIFISTOPARAKALESMAd",
    "TROMIKOSYNAGMAdPSIFISTOSYNAGMAdGORGOSYNTHETONdARGOSYNTHETONdETERON ARGOSYNTHETONdOYRANISMA",
    " NEOdTHEMATISMOS ESOeEXOdTHEMA APLOUNdTHES KAI APOTHESdKATAVASMAdENDOFONONdYFEN KATOeANOd",
    "STAVROSdKLASMA ANOdDIPLI ARCHAIONdKRATIMA ARCHAIONeALLOeNEOdAPODERMA NEOdAPLIdDIPLIdTRIPLI",
    "dTETRAPLIdKORONISdLEIMMA ENOS CHRONOUeDYO CHRONONeTRION CHRONONeTESSARON CHRONONeIMISEOS ",
    "CHRONOUdGORGON NEO ANOePARESTIGMENON ARISTERAfDEXIAdDIGORGONePARESTIGMENON ARISTERA KATOg",
    "ANOfDEXIAdTRIGORGONdARGONdIMIDIARGONdDIARGONdAGOGI POLI ARGIeARGOTERIeARGIeMETRIAeMESIe",
    "GORGIeGORGOTERIePOLI GORGIdMARTYRIA PROTOS ICHOSeALLI PROTOS ICHOSeDEYTEROS ICHOSeALLI ",
    "DEYTEROS ICHOSeTRITOS ICHOSeTRIFONIASeTETARTOS ICHOSfLEGETOS ICHOSeLEGETOS ICHOSePLAGIOS ",
    "ICHOSdISAKIA TELOUS ICHIMATOSdAPOSTROFOI TELOUS ICHIMATOSdFANEROSIS TETRAFONIASeMONOFONIAS",
    "eDIFONIASdMARTYRIA VARYS ICHOSePROTOVARYS ICHOSePLAGIOS TETARTOS ICHOSdGORTHMIKON N APLOUN",
    "fDIPLOUNdENARXIS KAI FTHORA VOUdIMIFONONdIMIFTHORONdFTHORA ARCHAION DEYTEROU ICHOUe",
    "DIATONIKI PAfNANAeNAOS ICHOSeDIATONIKI DIeSKLIRON DIATONON DIeDIATONIKI KEfZOfNI KATOgANOe",
    "MALAKON CHROMA DIFONIASgMONOFONIASdFHTORA SKLIRON CHROMA VASISdFTHORA SKLIRON CHROMA ",
    "SYNAFIeNENANOdCHROA ZYGOSeKLITONeSPATHIdFTHORA I YFESIS TETARTIMORIONeENARMONIOS ANTIFONIA",
    "dYFESIS TRITIMORIONdDIESIS TRITIMORIONeTETARTIMORIONeAPLI DYO DODEKATAeMONOGRAMMOS TESSERA",
    " DODEKATAeDIGRAMMOS EX DODEKATAeTRIGRAMMOS OKTO DODEKATAdYFESIS APLI DYO DODEKATAe",
    "MONOGRAMMOS TESSERA DODEKATAeDIGRAMMOS EX DODEKATAeTRIGRAMMOS OKTO DODEKATAdGENIKI DIESISe",
    "YFESISdDIASTOLI APLI MIKRIfMEGALIeDIPLIeTHESEOSdSIMANSIS THESEOSfDISIMOUfTRISIMOUf",
    "TETRASIMOUeARSEOSfDISIMOUfTRISIMOUfTETRASIMOUdDIGRAMMA GGdDIFTOGGOS OUdSTIGMAdARKTIKO PAe",
    "VOUeGAeDIeKEeZOeNIdKENTIMATA NEO MESOdKENTIMA NEO MESOdKENTIMATA NEO KATOdKENTIMA NEO KATO",
    "dKLASMA KATOdGORGON NEO KATO"]⟩,
  ⟨0x1D100, [
    "aMUSICAL SYMBOL SINGLE BARLINEcDOUBLE BARLINEcFINAL BARLINEcREVERSE FINAL BARLINEcDASHED ",
    "BARLINEcSHORT BARLINEcLEFT REPEAT SIGNcRIGHT REPEAT SIGNcREPEAT DOTScDAL SEGNOcDA CAPOc",
    "SEGNOcCODAcREPEATED FIGURE-1e-2e-3cFERMATAdBELOWcBREATH MARKcCAESURAcBRACEcBRACKETcONE-",
    "LINE STAFFcTWO-LINE STAFFcTHREE-LINE STAFFcFOUR-LINE STAFFcFIVE-LINE STAFFcSIX-LINE STAFFd",
    "-STRING FRETBOARDcFOUR-STRING FRETBOARDcG CLEFeOTTAVA ALTAfBASSAcC CLEFcF CLEFeOTTAVA ALTA",
    "fBASSAcDRUM CLEF-1e-2"]⟩,
  ⟨0x1D129, [
    "aMUSICAL SYMBOL MULTIPLE MEASURE RESTcDOUBLE SHARPdFLATcFLAT UPdDOWNcNATURAL UPdDOWNcSHARP",
    " UPdDOWNcQUARTER TONE SHARPeFLATcCOMMON TIMEcCUT TIMEcOTTAVA ALTAdBASSAcQUINDICESIMA ALTAd",
    "BASSAcMULTI RESTcWHOLE RESTcHALF RESTcQUARTER RESTcEIGHTH RESTcSIXTEENTH RESTcTHIRTY-",
    "SECOND RESTcSIXTY-FOURTH RESTcONE HUNDRED TWENTY-EIGHTH RESTcX NOTEHEADcPLUS NOTEHEADc",
    "CIRCLE X NOTEHEADcSQUARE NOTEHEAD WHITEeBLACKcTRIANGLE NOTEHEAD UP WHITEfBLACKeLEFT WHITEf",
    "BLACKeRIGHT WHITEfBLACKeDOWN WHITEfBLACKeUP RIGHT WHITEgBLACKcMOON NOTEHEAD WHITEeBLACKc",
    "TRIANGLE-ROUND NOTEHEAD DOWN WHITEgBLACKcPARENTHESIS NOTEHEADcVOID NOTEHEADcNOTEHEAD BLACK",
    "cNULL NOTEHEADcCLUSTER NOTEHEAD WHITEeBLACKcBREVEcWHOLE NOTEcHALF NOTEcQUARTER NOTEcEIGHTH",
    " NOTEcSIXTEENTH NOTEcTHIRTY-SECOND NOTEcSIXTY-FOURTH NOTEcONE HUNDRED TWENTY-EIGHTH NOTEc",
    "COMBINING STEMdSPRECHGESANG STEMdTREMOLO-1e-2e-3cFINGERED TREMOLO-1e-2e-3cCOMBINING ",
    "AUGMENTATION DOTdFLAG-1e-2e-3e-4e-5cBEGIN BEAMcEND BEAMcBEGIN TIEcEND TIEcBEGIN SLURcEND ",
    "SLURcBEGIN PHRASEcEND PHRASEcCOMBINING ACCENTdSTACCATOdTENUTOdSTACCATISSIMOdMARCATOe-",
    "STACCATOdACCENT-STACCATOdLOUREcARPEGGIATO UPdDOWNcCOMBINING DOITdRIPdFLIPdSMEARdBENDd",
    "DOUBLE TONGUEdTRIPLE TONGUEcRINFORZANDOcSUBITOcZcPIANOcMEZZOcFORTEcCRESCENDOcDECRESCENDOc",
    "GRACE NOTE SLASHeNO SLASHcTRcTURNcINVERTED TURNcTURN SLASHdUPcORNAMENT STROKE-1e-2e-3e-4e-",
    "5e-6e-7e-8e-9e-10e-11cHAUPTSTIMMEcNEBENSTIMMEcEND OF STIMMEcDEGREE SLASHcCOMBINING DOWN ",
    "BOWdUP BOWdHARMONICdSNAP PIZZICATOcPEDAL MARKdUP MARKcHALF PEDAL MARKcGLISSANDO UPdDOWNc",
    "WITH FINGERNAILScDAMPdALLcMAXIMAcLONGAcBREVIScSEMIBREVIS WHITEdBLACKcMINIMAdBLACKc",
    "SEMIMINIMA WHITEdBLACKcFUSA WHITEdBLACKcLONGA PERFECTA RESTdIMPERFECTA RESTcBREVIS RESTc",
    "SEMIBREVIS RESTcMINIMA RESTcSEMIMINIMA RESTcTEMPUS PERFECTUM CUM PROLATIONE PERFECTAg",
    "IMPERFECTAgPERFECTA DIMINUTION-1dIMPERFECTUM CUM PROLATIONE PERFECTAgIMPERFECTAhDIMINUTION",
    "-1i-2i-3cCROIXcGREGORIAN C CLEFdF CLEFcSQUARE BcVIRGAcPODATUScCLIVIScSCANDICUScCLIMACUSc",
    "TORCULUScPORRECTUSdFLEXUScSCANDICUS FLEXUScTORCULUS RESUPINUScPES SUBPUNCTIScKIEVAN C CLEF",
    "dEND OF PIECEdFINAL NOTEdRECITATIVE MARKdWHOLE NOTEdHALF NOTEdQUARTER NOTE STEM DOWNgUPd",
    "EIGHTH NOTE STEM DOWNgUPdFLAT SIGNcSORIcKORON"]⟩,
  ⟨0x1D200, [
    "aGREEK VOCAL NOTATION SYMBOL-1e-2e-3e-4e-5e-6e-7e-8e-9e-10e-11e-12e-13e-14e-15e-16e-17e-18",
    "e-19e-20e-21e-22e-23e-24e-50e-51e-52e-53e-54bINSTRUMENTAL NOTATION SYMBOL-1e-2e-4e-5e-7e-8",
    "e-11e-12e-13e-14e-17e-18e-19e-23e-24e-25e-26e-27e-29e-30e-32e-36e-37e-38e-39e-40e-42e-43e-",
    "45e-47e-48e-49e-50e-51e-52e-53e-54aCOMBINING GREEK MUSICAL TRISEMEdTETRASEMEdPENTASEMEa",
    "GREEK MUSICAL LEIMMA"]⟩,
  ⟨0x1D2E0, [
    "aMAYAN NUMERAL ZEROcONEcTWOcTHREEcFOURcFIVEcSIXcSEVENcEIGHTcNINEcTENcELEVENcTWELVEc",
    "THIRTEENcFOURTEENcFIFTEENcSIXTEENcSEVENTEENcEIGHTEENcNINETEEN"]⟩,
  ⟨0x1D300, [
    "aMONOGRAM FOR EARTHaDIGRAM FOR HEAVENLY EARTHcHUMAN EARTHcEARTHLY HEAVENdHUMANcEARTHa",
    "TETRAGRAM FOR CENTREcFULL CIRCLEcMIREDcBARRIERcKEEPING SMALLcCONTRARIETYcASCENTcOPPOSITION",
    "cBRANCHING OUTcDEFECTIVENESS OR DISTORTIONcDIVERGENCEcYOUTHFULNESScINCREASEcPENETRATIONc",
    "REACHcCONTACTcHOLDING BACKcWAITINGcFOLLOWINGcADVANCEcRELEASEcRESISTANCEcEASEcJOYc",
    "CONTENTIONcENDEAVOURcDUTIEScCHANGEcDECISIVENESScBOLD RESOLUTIONcPACKINGcLEGIONcCLOSENESSc",
    "KINSHIPcGATHERINGcSTRENGTHcPURITYcFULLNESScRESIDENCEcLAW OR MODELcRESPONSEcGOING TO MEETc",
    "ENCOUNTERScSTOVEcGREATNESScENLARGEMENTcPATTERNcRITUALcFLIGHTcVASTNESS OR WASTINGcCONSTANCY",
    "cMEASUREcETERNITYcUNITYcDIMINISHMENTcCLOSED MOUTHcGUARDEDNESScGATHERING INcMASSINGc",
    "ACCUMULATIONcEMBELLISHMENTcDOUBTcWATCHcSINKINGcINNERcDEPARTUREcDARKENINGcDIMMINGc",
    "EXHAUSTIONcSEVERANCEcSTOPPAGEcHARDNESScCOMPLETIONcCLOSUREcFAILUREcAGGRAVATIONcCOMPLIANCEc",
    "ON THE VERGEcDIFFICULTIEScLABOURINGcFOSTERING"]⟩,
  ⟨0x1D360, [
    "aCOUNTING ROD UNIT DIGIT ONEeTWOeTHREEeFOUReFIVEeSIXeSEVENeEIGHTeNINEcTENS DIGIT ONEeTWOe",
    "THREEeFOUReFIVEeSIXeSEVENeEIGHTeNINEaIDEOGRAPHIC TALLY MARK ONEdTWOdTHREEdFOURdFIVEaTALLY ",
    "MARK ONEcFIVE"]⟩,
  ⟨0x1D400, [
    "aMATHEMATICAL BOLD CAPITAL AdBdCdDdEdFdGdHdIdJdKdLdMdNdOdPdQdRdSdTdUdVdWdXdYdZcSMALL AdBdC",
    "dDdEdFdGdHdIdJdKdLdMdNdOdPdQdRdSdTdUdVdWdXdYdZbITALIC CAPITAL AdBdCdDdEdFdGdHdIdJdKdLdMdNd",
    "OdPdQdRdSdTdUdVdWdXdYdZcSMALL AdBdCdDdEdFdG"]⟩,
  ⟨0x1D456, [
    "aMATHEMATICAL ITALIC SMALL IdJdKdLdMdNdOdPdQdRdSdTdUdVdWdXdYdZbBOLD ITALIC CAPITAL AeBeCeD",
    "eEeFeGeHeIeJeKeLeMeNeOePeQeReSeTeUeVeWeXeYeZdSMALL AeBeCeDeEeFeGeHeIeJeKeLeMeNeOePeQeReSeT",
    "eUeVeWeXeYeZbSCRIPT CAPITAL A"]⟩,
  ⟨0x1D49E, ["aMATHEMATICAL SCRIPT CAPITAL CdD"]⟩,
  ⟨0x1D4A2, ["aMATHEMATICAL SCRIPT CAPITAL G"]⟩,
  ⟨0x1D4A5, ["aMATHEMATICAL SCRIPT CAPITAL JdK"]⟩,
  ⟨0x1D4A9, ["aMATHEMATICAL SCRIPT CAPITAL NdOdPdQ"]⟩,
  ⟨0x1D4AE, ["aMATHEMATICAL SCRIPT CAPITAL SdTdUdVdWdXdYdZcSMALL AdBdCdD"]⟩,
  ⟨0x1D4BB, ["aMATHEMATICAL SCRIPT SMALL F"]⟩,
  ⟨0x1D4BD, ["aMATHEMATICAL SCRIPT SMALL HdIdJdKdLdMdN"]⟩,
  ⟨0x1D4C5, [
    "aMATHEMATICAL SCRIPT SMALL PdQdRdSdTdUdVdWdXdYdZbBOLD SCRIPT CAPITAL AeBeCeDeEeFeGeHeIeJeK",
    "eLeMeNeOePeQeReSeTeUeVeWeXeYeZdSMALL AeBeCeDeEeFeGeHeIeJeKeLeMeNeOePeQeReSeTeUeVeWeXeYeZb",
    "FRAKTUR CAPITAL AdB"]⟩,
  ⟨0x1D507, ["aMATHEMATICAL FRAKTUR CAPITAL DdEdFdG"]⟩,
  ⟨0x1D50D, ["aMATHEMATICAL FRAKTUR CAPITAL JdKdLdMdNdOdPdQ"]⟩,
  ⟨0x1D516, ["aMATHEMATICAL FRAKTUR CAPITAL SdTdUdVdWdXdY"]⟩,
  ⟨0x1D51E, [
    "aMATHEMATICAL FRAKTUR SMALL AdBdCdDdEdFdGdHdIdJdKdLdMdNdOdPdQdRdSdTdUdVdWdXdYdZbDOUBLE-",
    "STRUCK CAPITAL AeB"]⟩,
  ⟨0x1D53B, ["aMATHEMATICAL DOUBLE-STRUCK CAPITAL DeEeFeG"]⟩,
  ⟨0x1D540, ["aMATHEMATICAL DOUBLE-STRUCK CAPITAL IeJeKeLeM"]⟩,
  ⟨0x1D546, ["aMATHEMATICAL DOUBLE-STRUCK CAPITAL O"]⟩,
  ⟨0x1D54A, ["aMATHEMATICAL DOUBLE-STRUCK CAPITAL SeTeUeVeWeXeY"]⟩,
  ⟨0x1D552, [
    "aMATHEMATICAL DOUBLE-STRUCK SMALL AeBeCeDeEeFeGeHeIeJeKeLeMeNeOePeQeReSeTeUeVeWeXeYeZbBOLD",
    " FRAKTUR CAPITAL AeBeCeDeEeFeGeHeIeJeKeLeMeNeOePeQeReSeTeUeVeWeXeYeZdSMALL AeBeCeDeEeFeGeH",
    "eIeJeKeLeMeNeOePeQeReSeTeUeVeWeXeYeZbSANS-SERIF CAPITAL AeBeCeDeEeFeGeHeIeJeKeLeMeNeOePeQe",
    "ReSeTeUeVeWeXeYeZdSMALL AeBeCeDeEeFeGeHeIeJeKeLeMeNeOePeQeReSeTeUeVeWeXeYeZdBOLD CAPITAL A",
    "fBfCfDfEfFfGfHfIfJfKfLfMfNfOfPfQfRfSfTfUfVfWfXfYfZeSMALL AfBfCfDfEfFfGfHfIfJfKfLfMfNfOfPfQ",
    "fRfSfTfUfVfWfXfYfZdITALIC CAPITAL AfBfCfDfEfFfGfHfIfJfKfLfMfNfOfPfQfRfSfTfUfVfWfXfYfZe",
    "SMALL AfBfCfDfEfFfGfHfIfJfKfLfMfNfOfPfQfRfSfTfUfVfWfXfYfZdBOLD ITALIC CAPITAL AgBgCgDgEgFg",
    "GgHgIgJgKgLgMgNgOgPgQgRgSgTgUgVgWgXgYgZfSMALL AgBgCgDgEgFgGgHgIgJgKgLgMgNgOgPgQgRgSgTgUgVg",
    "WgXgYgZbMONOSPACE CAPITAL AdBdCdDdEdFdGdHdIdJdKdLdMdNdOdPdQdRdSdTdUdVdWdXdYdZcSMALL AdBdCd",
    "DdEdFdGdHdIdJdKdLdMdNdOdPdQdRdSdTdUdVdWdXdYdZbITALIC SMALL DOTLESS IeJ"]⟩,
  ⟨0x1D6A8, [
    "aMATHEMATICAL BOLD CAPITAL ALPHAdBETAdGAMMAdDELTAdEPSILONdZETAdETAdTHETAdIOTAdKAPPAdLAMDAd",
    "MUdNUdXIdOMICRONdPIdRHOdTHETA SYMBOLdSIGMAdTAUdUPSILONdPHIdCHIdPSIdOMEGAcNABLAcSMALL ALPHA",
    "dBETAdGAMMAdDELTAdEPSILONdZETAdETAdTHETAdIOTAdKAPPAdLAMDAdMUdNUdXIdOMICRONdPIdRHOdFINAL ",
    "SIGMAdSIGMAdTAUdUPSILONdPHIdCHIdPSIdOMEGAcPARTIAL DIFFERENTIALcEPSILON SYMBOLcTHETA SYMBOL",
    "cKAPPA SYMBOLcPHI SYMBOLcRHO SYMBOLcPI SYMBOLbITALIC CAPITAL ALPHAdBETAdGAMMAdDELTAd",
    "EPSILONdZETAdETAdTHETAdIOTAdKAPPAdLAMDAdMUdNUdXIdOMICRONdPIdRHOdTHETA SYMBOLdSIGMAdTAUd",
    "UPSILONdPHIdCHIdPSIdOMEGAcNABLAcSMALL ALPHAdBETAdGAMMAdDELTAdEPSILONdZETAdETAdTHETAdIOTAd",
    "KAPPAdLAMDAdMUdNUdXIdOMICRONdPIdRHOdFINAL SIGMAdSIGMAdTAUdUPSILONdPHIdCHIdPSIdOMEGAc",
    "PARTIAL DIFFERENTIALcEPSILON SYMBOLcTHETA SYMBOLcKAPPA SYMBOLcPHI SYMBOLcRHO SYMBOLcPI ",
    "SYMBOLbBOLD ITALIC CAPITAL ALPHAeBETAeGAMMAeDELTAeEPSILONeZETAeETAeTHETAeIOTAeKAPPAeLAMDAe",
    "MUeNUeXIeOMICRONePIeRHOeTHETA SYMBOLeSIGMAeTAUeUPSILONePHIeCHIePSIeOMEGAdNABLAdSMALL ALPHA",
    "eBETAeGAMMAeDELTAeEPSILONeZETAeETAeTHETAeIOTAeKAPPAeLAMDAeMUeNUeXIeOMICRONePIeRHOeFINAL ",
    "SIGMAeSIGMAeTAUeUPSILONePHIeCHIePSIeOMEGAdPARTIAL DIFFERENTIALdEPSILON SYMBOLdTHETA SYMBOL",
    "dKAPPA SYMBOLdPHI SYMBOLdRHO SYMBOLdPI SYMBOLbSANS-SERIF BOLD CAPITAL ALPHAfBETAfGAMMAf",
    "DELTAfEPSILONfZETAfETAfTHETAfIOTAfKAPPAfLAMDAfMUfNUfXIfOMICRONfPIfRHOfTHETA SYMBOLfSIGMAf",
    "TAUfUPSILONfPHIfCHIfPSIfOMEGAeNABLAeSMALL ALPHAfBETAfGAMMAfDELTAfEPSILONfZETAfETAfTHETAf",
    "IOTAfKAPPAfLAMDAfMUfNUfXIfOMICRONfPIfRHOfFINAL SIGMAfSIGMAfTAUfUPSILONfPHIfCHIfPSIfOMEGAe",
    "PARTIAL DIFFERENTIALeEPSILON SYMBOLeTHETA SYMBOLeKAPPA SYMBOLePHI SYMBOLeRHO SYMBOLePI ",
    "SYMBOLeITALIC CAPITAL ALPHAgBETAgGAMMAgDELTAgEPSILONgZETAgETAgTHETAgIOTAgKAPPAgLAMDAgMUgNU",
    "gXIgOMICRONgPIgRHOgTHETA SYMBOLgSIGMAgTAUgUPSILONgPHIgCHIgPSIgOMEGAfNABLAfSMALL ALPHAgBETA",
    "gGAMMAgDELTAgEPSILONgZETAgETAgTHETAgIOTAgKAPPAgLAMDAgMUgNUgXIgOMICRONgPIgRHOgFINAL SIGMAg",
    "SIGMAgTAUgUPSILONgPHIgCHIgPSIgOMEGAfPARTIAL DIFFERENTIALfEPSILON SYMBOLfTHETA SYMBOLfKAPPA",
    " SYMBOLfPHI SYMBOLfRHO SYMBOLfPI SYMBOLbBOLD CAPITAL DIGAMMAcSMALL DIGAMMA"]⟩,
  ⟨0x1D7CE, [
    "aMATHEMATICAL BOLD DIGIT ZEROdONEdTWOdTHREEdFOURdFIVEdSIXdSEVENdEIGHTdNINEbDOUBLE-STRUCK ",
    "DIGIT ZEROeONEeTWOeTHREEeFOUReFIVEeSIXeSEVENeEIGHTeNINEbSANS-SERIF DIGIT ZEROeONEeTWOe",
    "THREEeFOUReFIVEeSIXeSEVENeEIGHTeNINEdBOLD DIGIT ZEROfONEfTWOfTHREEfFOURfFIVEfSIXfSEVENf",
    "EIGHTfNINEbMONOSPACE DIGIT ZEROdONEdTWOdTHREEdFOURdFIVEdSIXdSEVENdEIGHTdNINEaSIGNWRITING ",
    "HAND-FIST INDEXc-CIRCLE INDEXc-CUP INDEXc-OVAL INDEXc-HINGE INDEXc-ANGLE INDEXc-FIST INDEX",
    " BENTc-CIRCLE INDEX BENTc-FIST THUMB UNDER INDEX BENTdINDEX RAISED KNUCKLEeCUPPEDeHINGEDf",
    "LOWc-CIRCLE INDEX HINGEc-FIST INDEX MIDDLEc-CIRCLE INDEX MIDDLEc-FIST INDEX MIDDLE BENTf",
    "RAISED KNUCKLESfHINGEDeUP MIDDLE HINGEDeHINGED MIDDLE UPeMIDDLE CONJOINEDgINDEX BENTg",
    "MIDDLE BENTgCUPPEDgHINGEDfCROSSEDc-CIRCLE INDEX MIDDLE CROSSEDc-FIST MIDDLE BENT OVER ",
    "INDEXdINDEX BENT OVER MIDDLEeMIDDLE THUMBc-CIRCLE INDEX MIDDLE THUMBc-FIST INDEX MIDDLE ",
    "STRAIGHT THUMB BENTfBENT THUMB STRAIGHTfTHUMB BENTfHINGED SPREAD THUMB SIDEeUP MIDDLE ",
    "HINGED THUMB SIDEiCONJOINEDeHINGED MIDDLE UP THUMB SIDEeMIDDLE UP SPREAD THUMB FORWARDf",
    "THUMB CUPPEDgCIRCLEDgHOOKEDgHINGEDdTHUMB BETWEEN INDEX MIDDLE STRAIGHTdINDEX MIDDLE ",
    "CONJOINED THUMB SIDEiCONJOINEDiBENTdMIDDLE THUMB HOOKED INDEX UPdINDEX THUMB HOOKED MIDDLE",
    " UPeMIDDLE CONJOINED HINGED THUMB SIDEfCROSSED THUMB SIDEfCONJOINED THUMB FORWARDgCUPPED ",
    "THUMB FORWARDdMIDDLE THUMB CUPPED INDEX UPdINDEX THUMB CUPPED MIDDLE UPdMIDDLE THUMB ",
    "CIRCLED INDEX UPhHINGEDdINDEX THUMB ANGLED OUT MIDDLE UPgIN MIDDLE UPfCIRCLED MIDDLE UPe",
    "MIDDLE THUMB CONJOINED HINGEDgANGLED OUTgANGLEDdMIDDLE THUMB ANGLED OUT INDEX UPiCROSSEDg",
    "INDEX UPdINDEX THUMB HOOKED MIDDLE HINGEDc-FLAT FOUR FINGERSfBENTfHINGEDfCONJOINEDgSPLITc-",
    "CLAW FOUR FINGERS CONJOINEDc-FIST FOUR FINGERS CONJOINED BENTc-HINGE FOUR FINGERS ",
    "CONJOINEDc-FLAT FIVE FINGERS SPREADdHEEL FIVE FINGERS SPREADdFIVE FINGERS SPREAD FOUR BENT",
    "dHEEL FIVE FINGERS SPREAD FOUR BENTdFIVE FINGERS SPREAD BENTdHEEL FIVE FINGERS SPREAD BENT",
    "dFIVE FINGERS SPREAD THUMB FORWARDc-CUP FIVE FINGERS SPREADgOPENc-HINGE FIVE FINGERS ",
    "SPREAD OPENc-OVAL FIVE FINGERS SPREADc-FLAT FIVE FINGERS SPREAD HINGEDhTHUMB SIDEhNO THUMB",
    "c-FLATdBETWEEN PALM FACINGSdHEELdTHUMB SIDEdHEEL THUMB SIDEdTHUMB BENTeFORWARDdSPLIT INDEX",
    " THUMB SIDEeCENTREfTHUMB SIDEhBENTeLITTLEc-CLAWdTHUMB SIDEdNO THUMBdTHUMB FORWARDc-HOOK ",
    "CURLICUEc-HOOKc-CUP OPENc-CUPdOPEN THUMB SIDEdTHUMB SIDEdOPEN NO THUMBdNO THUMBdOPEN THUMB",
    " FORWARDdTHUMB FORWARDc-CURLICUE OPENc-CURLICUEc-CIRCLEc-OVALdTHUMB SIDEdNO THUMBdTHUMB ",
    "FORWARDc-HINGE OPENeTHUMB FORWARDc-HINGEdSMALLdOPEN THUMB SIDEdTHUMB SIDEdOPEN NO THUMBdNO",
    " THUMBdTHUMB SIDE TOUCHING INDEXeBETWEEN MIDDLE RINGc-ANGLEc-FIST INDEX MIDDLE RINGc-",
    "CIRCLE INDEX MIDDLE RINGc-HINGE INDEX MIDDLE RINGc-ANGLE INDEX MIDDLE RINGc-HINGE LITTLEc-",
    "FIST INDEX MIDDLE RING BENTgCONJOINEDc-HINGE INDEX MIDDLE RING CONJOINEDc-FIST LITTLE DOWN",
    "fRIPPLE STRAIGHTgCURVEDfOTHERS CIRCLEDeUPdTHUMB UNDER LITTLE UPc-CIRCLE LITTLE UPc-OVAL ",
    "LITTLE UPc-ANGLE LITTLE UPc-FIST LITTLE RAISED KNUCKLEeBENTeTOUCHES THUMBeTHUMBc-HINGE ",
    "LITTLE THUMBc-FIST LITTLE INDEX THUMBc-HINGE LITTLE INDEX THUMBc-ANGLE LITTLE INDEX THUMB ",
    "INDEX THUMB OUThTHUMBc-FIST LITTLE INDEXc-CIRCLE LITTLE INDEXc-HINGE LITTLE INDEXc-ANGLE ",
    "LITTLE INDEXc-FIST INDEX MIDDLE LITTLEc-CIRCLE INDEX MIDDLE LITTLEc-HINGE INDEX MIDDLE ",
    "LITTLEdRINGc-ANGLE INDEX MIDDLE LITTLEc-FIST INDEX MIDDLE CROSS LITTLEc-CIRCLE INDEX ",
    "MIDDLE CROSS LITTLEc-FIST RING DOWNc-HINGE RING DOWN INDEX THUMB HOOK MIDDLEc-ANGLE RING ",
    "DOWN MIDDLE THUMB INDEX CROSSc-FIST RING UPeRAISED KNUCKLEeLITTLEc-CIRCLE RING LITTLEc-",
    "OVAL RING LITTLEc-ANGLE RING LITTLEc-FIST RING MIDDLEfCONJOINEDfRAISED KNUCKLESeINDEXe",
    "THUMBc-HOOK RING THUMBc-FIST INDEX RING LITTLEc-CIRCLE INDEX RING LITTLEc-CURLICUE INDEX ",
    "RING LITTLE ONc-HOOK INDEX RING LITTLE OUTgINgUNDERc-CUP INDEX RING LITTLEc-HINGE INDEX ",
    "RING LITTLEc-ANGLE INDEX RING LITTLE OUTfLITTLEc-FIST MIDDLE DOWNc-HINGE MIDDLEc-FIST ",
    "MIDDLE UPc-CIRCLE MIDDLE UPc-FIST MIDDLE RAISED KNUCKLEeUP THUMB SIDEc-HOOK MIDDLE THUMBc-",
    "FIST MIDDLE THUMB LITTLEeLITTLEeRING LITTLEc-CIRCLE MIDDLE RING LITTLEc-CURLICUE MIDDLE ",
    "RING LITTLE ONc-CUP MIDDLE RING LITTLEc-HINGE MIDDLE RING LITTLEc-ANGLE MIDDLE RING LITTLE",
    " OUTgINfLITTLEc-CIRCLE MIDDLE RING LITTLE BENTc-CLAW MIDDLE RING LITTLE CONJOINEDhSIDEc-",
    "HOOK MIDDLE RING LITTLE CONJOINED OUThINgCONJOINEDc-HINGE INDEX HINGEDc-FIST INDEX THUMB ",
    "SIDEc-HINGE INDEX THUMB SIDEc-FIST INDEX THUMB SIDE THUMB DIAGONALhCONJOINEDhBENTgINDEX ",
    "BENTgBOTH BENTgINDEX HINGEfFORWARD INDEX STRAIGHThBENTfHOOKfCURLICUEfCURVE THUMB INSIDEc-",
    "CLAW INDEX THUMB CURVE THUMB INSIDEc-FIST INDEX THUMB CURVE THUMB UNDERfCIRCLEc-CUP INDEX ",
    "THUMBfOPENc-HINGE INDEX THUMB OPENfLARGEeTHUMBfSMALLc-ANGLE INDEX THUMB OUTfINeTHUMBc-FIST",
    " THUMBeHEELeSIDE DIAGONALfCONJOINEDfBENTeFORWARDeBETWEEN INDEX MIDDLEfMIDDLE RINGfRING ",
    "LITTLEeUNDER TWO FINGERSeOVER TWO FINGERSeUNDER THREE FINGERSfFOUR FINGERSeOVER FOUR ",
    "RAISED KNUCKLESc-FISTdHEELbTOUCH SINGLEcMULTIPLEcBETWEENbGRASP SINGLEcMULTIPLEcBETWEENb",
    "STRIKE SINGLEcMULTIPLEcBETWEENbBRUSH SINGLEcMULTIPLEcBETWEENbRUB SINGLEcMULTIPLEcBETWEENb",
    "SURFACE SYMBOLScBETWEENbSQUEEZE LARGE SINGLEcSMALL SINGLEcLARGE MULTIPLEcSMALL MULTIPLEc",
    "SEQUENTIALbFLICK LARGE SINGLEcSMALL SINGLEcLARGE MULTIPLEcSMALL MULTIPLEcSEQUENTIALb",
    "SQUEEZE FLICK ALTERNATINGbMOVEMENT-HINGE UP DOWN LARGEfSMALLeSEQUENTIALdDOWN SEQUENTIALdUP",
    " DOWN ALTERNATING LARGEgSMALLdSIDE TO SIDE SCISSORSc-WALLPLANE FINGER CONTACTc-FLOORPLANE ",
    "FINGER CONTACTc-WALLPLANE SINGLE STRAIGHT SMALLfMEDIUMfLARGEfLARGESTeWRIST FLEXdDOUBLE ",
    "STRAIGHTeWRIST FLEXeALTERNATINGfWRIST FLEXdCROSSdTRIPLE STRAIGHT MOVEMENTeWRIST FLEXe",
    "ALTERNATINGfWRIST FLEXdBEND SMALLeMEDIUMeLARGEdCORNER SMALLeMEDIUMeLARGEeROTATIONdCHECK ",
    "SMALLeMEDIUMeLARGEdBOX SMALLeMEDIUMeLARGEdZIGZAG SMALLeMEDIUMeLARGEdPEAKS SMALLeMEDIUMe",
    "LARGEbTRAVEL-WALLPLANE ROTATION-WALLPLANE SINGLEfDOUBLEfALTERNATINGe-FLOORPLANE SINGLEf",
    "DOUBLEfALTERNATINGdSHAKINGdARM SPIRAL SINGLEfDOUBLEfTRIPLEbMOVEMENT-DIAGONAL AWAY SMALLe",
    "MEDIUMeLARGEeLARGESTdTOWARDS SMALLeMEDIUMeLARGEeLARGESTdBETWEEN AWAY SMALLfMEDIUMfLARGEf",
    "LARGESTeTOWARDS SMALLfMEDIUMfLARGEfLARGESTc-FLOORPLANE SINGLE STRAIGHT SMALLfMEDIUMfLARGEf",
    "LARGESTeWRIST FLEXdDOUBLE STRAIGHTeWRIST FLEXeALTERNATINGfWRIST FLEXdCROSSdTRIPLE STRAIGHT",
    " MOVEMENTeWRIST FLEXeALTERNATING MOVEMENTfWRIST FLEXdBENDdCORNER SMALLeMEDIUMeLARGEdCHECKd",
    "BOX SMALLeMEDIUMeLARGEdZIGZAG SMALLeMEDIUMeLARGEdPEAKS SMALLeMEDIUMeLARGEbTRAVEL-",
    "FLOORPLANE ROTATION-FLOORPLANE SINGLEfDOUBLEfALTERNATINGe-WALLPLANE SINGLEfDOUBLEf",
    "ALTERNATINGdSHAKINGbMOVEMENT-WALLPLANE CURVE QUARTER SMALLfMEDIUMfLARGEfLARGESTeHALF-",
    "CIRCLE SMALLgMEDIUMgLARGEgLARGESTeTHREE-QUARTER CIRCLE SMALLhMEDIUMdHUMP SMALLeMEDIUMe",
    "LARGEdLOOP SMALLeMEDIUMeLARGEeSMALL DOUBLEdWAVE CURVE DOUBLE SMALLgMEDIUMgLARGEfTRIPLE ",
    "SMALLgMEDIUMgLARGEdCURVE THEN STRAIGHTdCURVED CROSS SMALLfMEDIUMbROTATION-WALLPLANE SINGLE",
    "dDOUBLEdALTERNATEbMOVEMENT-WALLPLANE SHAKINGdCURVE HITTING FRONT WALLdHUMP HITTING FRONT ",
    "WALLdLOOP HITTING FRONT WALLdWAVE HITTING FRONT WALLbROTATION-WALLPLANE SINGLE HITTING ",
    "FRONT WALLdDOUBLE HITTING FRONT WALLdALTERNATING HITTING FRONT WALLbMOVEMENT-WALLPLANE ",
    "CURVE HITTING CHESTdHUMP HITTING CHESTdLOOP HITTING CHESTdWAVE HITTING CHESTbROTATION-",
    "WALLPLANE SINGLE HITTING CHESTdDOUBLE HITTING CHESTdALTERNATING HITTING CHESTbMOVEMENT-",
    "WALLPLANE WAVE DIAGONAL PATH SMALLgMEDIUMgLARGEc-FLOORPLANE CURVE HITTING CEILING SMALLg",
    "LARGEdHUMP HITTING CEILING SMALL DOUBLEgLARGE DOUBLEgSMALL TRIPLEgLARGE TRIPLEdLOOP ",
    "HITTING CEILING SMALL SINGLEgLARGE SINGLEgSMALL DOUBLEgLARGE DOUBLEdWAVE HITTING CEILING ",
    "SMALLgLARGEbROTATION-FLOORPLANE SINGLE HITTING CEILINGdDOUBLE HITTING CEILINGdALTERNATING ",
    "HITTING CEILINGbMOVEMENT-FLOORPLANE CURVE HITTING FLOOR SMALLgLARGEdHUMP HITTING FLOOR ",
    "SMALL DOUBLEgLARGE DOUBLEgTRIPLE SMALL TRIPLEhLARGE TRIPLEdLOOP HITTING FLOOR SMALL SINGLE",
    "gLARGE SINGLEgSMALL DOUBLEgLARGE DOUBLEdWAVE HITTING FLOOR SMALLgLARGEbROTATION-FLOORPLANE",
    " SINGLE HITTING FLOORdDOUBLE HITTING FLOORdALTERNATING HITTING FLOORbMOVEMENT-FLOORPLANE ",
    "CURVE SMALLeMEDIUMeLARGEeLARGESTeCOMBINEDdHUMP SMALLdLOOP SMALLdWAVE SNAKEeSMALLeLARGEb",
    "ROTATION-FLOORPLANE SINGLEdDOUBLEdALTERNATINGbMOVEMENT-FLOORPLANE SHAKING PARALLELc-",
    "WALLPLANE ARM CIRCLE SMALL SINGLEfMEDIUM SINGLEfSMALL DOUBLEfMEDIUM DOUBLEc-FLOORPLANE ARM",
    " CIRCLE HITTING WALL SMALL SINGLEhMEDIUM SINGLEhLARGE SINGLEhSMALL DOUBLEhMEDIUM DOUBLEh",
    "LARGE DOUBLEc-WALLPLANE WRIST CIRCLE FRONT SINGLEgDOUBLEc-FLOORPLANE WRIST CIRCLE HITTING ",
    "WALL SINGLEhDOUBLEc-WALLPLANE FINGER CIRCLES SINGLEfDOUBLEc-FLOORPLANE FINGER CIRCLES ",
    "HITTING WALL SINGLEhDOUBLEbDYNAMIC ARROWHEAD SMALLdLARGEcFASTcSLOWcTENSEcRELAXEDc",
    "SIMULTANEOUSdALTERNATINGcEVERY OTHER TIMEcGRADUALbHEADcRIMcMOVEMENT-WALLPLANE STRAIGHTe",
    "TILTd-FLOORPLANE STRAIGHTd-WALLPLANE CURVEd-FLOORPLANE CURVEdCIRCLEbFACE DIRECTION ",
    "POSITION NOSE FORWARD TILTINGfUP OR DOWNiTILTINGbEYEBROWS STRAIGHT UPdNEUTRALdDOWNbDREAMY ",
    "EYEBROWS NEUTRAL DOWNdDOWN NEUTRALdUP NEUTRALdNEUTRAL UPbFOREHEAD NEUTRALcCONTACTcWRINKLED",
    "bEYES OPENcSQUEEZEDcCLOSEDbEYE BLINK SINGLEdMULTIPLEbEYES HALF OPENcWIDE OPENcHALF CLOSEDc",
    "WIDENING MOVEMENTbEYE WINKbEYELASHES UPcDOWNcFLUTTERINGbEYEGAZE-WALLPLANE STRAIGHTeDOUBLEe",
    "ALTERNATINGc-FLOORPLANE STRAIGHTeDOUBLEeALTERNATINGc-WALLPLANE CURVEDc-FLOORPLANE CURVEDc-",
    "WALLPLANE CIRCLINGbCHEEKS PUFFEDcNEUTRALcSUCKEDbTENSE CHEEKS HIGHdMIDDLEdLOWbEARSbNOSE ",
    "NEUTRALcCONTACTcWRINKLEScWIGGLESbAIR BLOWING OUTcSUCKING INcBLOW SMALL ROTATIONScSUCK ",
    "SMALL ROTATIONSbBREATH INHALEcEXHALEbMOUTH CLOSED NEUTRALdFORWARDdCONTACTcSMILEdWRINKLEDd",
    "OPENcFROWNdWRINKLEDdOPENcOPEN CIRCLEdFORWARDdWRINKLEDdOVALeWRINKLEDeYAWNdRECTANGLEe",
    "WRINKLEDeYAWNcKISSdFORWARDdWRINKLEDcTENSEdFORWARDdSUCKEDbLIPS PRESSED TOGETHERbLIP LOWER ",
    "OVER UPPERcUPPER OVER LOWERbMOUTH CORNERScWRINKLES SINGLEdDOUBLEbTONGUE STICKING OUT FARc",
    "LICKING LIPScTIP BETWEEN LIPSdTOUCHING INSIDE MOUTHcINSIDE MOUTH RELAXEDcMOVES AGAINST ",
    "CHEEKcCENTRE STICKING OUTdINSIDE MOUTHbTEETHcMOVEMENTcON TONGUEeMOVEMENTdLIPSeMOVEMENTc",
    "BITE LIPSbMOVEMENT-WALLPLANE JAWc-FLOORPLANE JAWbNECKbHAIRbEXCITEMENTbSHOULDER HIP SPINEd",
    "POSITIONSbWALLPLANE SHOULDER HIP MOVEbFLOORPLANE SHOULDER HIP MOVEbSHOULDER TILTING FROM ",
    "WAISTbTORSO-WALLPLANE STRAIGHT STRETCHdCURVED BENDc-FLOORPLANE TWISTINGbUPPER BODY TILTING",
    " FROM HIP JOINTSbLIMB COMBINATIONcLENGTH-1d-2d-3d-4d-5d-6d-7bFINGERbLOCATION-WALLPLANE ",
    "SPACEc-FLOORPLANE SPACEcHEIGHTcWIDTHcDEPTHcHEAD NECKcTORSOcLIMBS DIGITSbCOMMAbFULL STOPb",
    "SEMICOLONbCOLONbPARENTHESIS"]⟩,
  ⟨0x1DA9B, ["aSIGNWRITING FILL MODIFIER-2d-3d-4d-5d-6"]⟩,
  ⟨0x1DAA1, [
    "aSIGNWRITING ROTATION MODIFIER-2d-3d-4d-5d-6d-7d-8d-9d-10d-11d-12d-13d-14d-15d-16"]⟩,
  ⟨0x1DF00, [
    "aLATIN SMALL LETTER FENG DIGRAPH WITH TRILLdREVERSED SCRIPT GbLETTER SMALL CAPITAL TURNED ",
    "GbSMALL LETTER REVERSED KbLETTER SMALL CAPITAL L WITH BELTbSMALL LETTER LEZH WITH ",
    "RETROFLEX HOOKdTURNED Y WITH BELTdREVERSED ENGdTURNED R WITH LONG LEG AND RETROFLEX HOOKdT",
    " WITH HOOK AND RETROFLEX HOOKbLETTER RETROFLEX CLICK WITH RETROFLEX HOOKbSMALL LETTER ESH ",
    "WITH DOUBLE BARhAND CURLdTURNED T WITH CURLbLETTER INVERTED GLOTTAL STOP WITH CURLc",
    "STRETCHED C WITH CURLcSMALL CAPITAL TURNED KbSMALL LETTER L WITH FISHHOOKdDEZH DIGRAPH ",
    "WITH PALATAL HOOKdL WITH BELT AND PALATAL HOOKdENG WITH PALATAL HOOKdTURNED R WITH PALATAL",
    " HOOKdR WITH FISHHOOK AND PALATAL HOOKdTESH DIGRAPH WITH PALATAL HOOKdEZH WITH PALATAL ",
    "HOOKdDEZH DIGRAPH WITH RETROFLEX HOOKdI WITH STROKE AND RETROFLEX HOOKdO WITH RETROFLEX ",
    "HOOKdTESH DIGRAPH WITH RETROFLEX HOOKdC WITH RETROFLEX HOOKdS WITH CURL"]⟩,
  ⟨0x1E000, ["aCOMBINING GLAGOLITIC LETTER AZUdBUKYdVEDEdGLAGOLIdDOBROdYESTUdZHIVETE"]⟩,
  ⟨0x1E008, [
    "aCOMBINING GLAGOLITIC LETTER ZEMLJAdIZHEdINITIAL IZHEdIdDJERVIdKAKOdLJUDIJEdMYSLITEdNASHId",
    "ONUdPOKOJIdRITSIdSLOVOdTVRIDOdUKUdFRITUdHERU"]⟩,
  ⟨0x1E01B, ["aCOMBINING GLAGOLITIC LETTER SHTAdTSIdCHRIVIdSHAdYERUdYERIdYATI"]⟩,
  ⟨0x1E023, ["aCOMBINING GLAGOLITIC LETTER YUdSMALL YUS"]⟩,
  ⟨0x1E026, [
    "aCOMBINING GLAGOLITIC LETTER YOdIOTATED SMALL YUSdBIG YUSdIOTATED BIG YUSdFITA"]⟩,
  ⟨0x1E100, [
    "aNYIAKENG PUACHUE HMONG LETTER MAeTSAeNTAeTAeHAeNAeXAeNKAeCAeLAeSAeZAeNCAeNTSAeKAeDAeNYAe",
    "NRAeVAeNTXAeTXAeFAeRAeQAeYAeNQAePAeXYAeNPAeDLAeNPLAeHAHeMLAePLAeGAeRRAeAeAAeIeUeOeOOeEeEEe",
    "W"]⟩,
  ⟨0x1E130, [
    "aNYIAKENG PUACHUE HMONG TONE-Be-Me-Je-Ve-Se-Ge-DdSIGN FOR PERSONfTHINGfLOCATIONfANIMALf",
    "INVERTEBRATEeXW XWdSYLLABLE LENGTHENER"]⟩,
  ⟨0x1E140, [
    "aNYIAKENG PUACHUE HMONG DIGIT ZEROeONEeTWOeTHREEeFOUReFIVEeSIXeSEVENeEIGHTeNINE"]⟩,
  ⟨0x1E14E, ["aNYIAKENG PUACHUE HMONG LOGOGRAM NYAJdCIRCLED CA"]⟩,
  ⟨0x1E290, [
    "aTOTO LETTER PAcBAcTAcDAcKAcGAcMAcNAcNGAcSAcCHAcYAcWAcJAcHAcRAcLAcIcBREATHY IcIUcBREATHY ",
    "IUcUcEcBREATHY EcEOcBREATHY EOcOcAEcBREATHY AEcAbSIGN RISING TONE"]⟩,
  ⟨0x1E2C0, [
    "aWANCHO LETTER AAcAcBAcCAcDAcGAcYAcPHAcLAcNAcPAcTAcTHAcFAcSAcSHAcJAcZAcWAcVAcKAcOcAUcRAcMA",
    "cKHAcHAcEcIcNGAcUcLLHAcTSAcTRAcONGcAANGcANGcINGcONcENcAANcNYAcUENcYIHbTONE TUPcTUPNIcKOIc",
    "KOINIbDIGIT ZEROcONEcTWOcTHREEcFOURcFIVEcSIXcSEVENcEIGHTcNINE"]⟩,
  ⟨0x1E2FF, ["aWANCHO NGUN SIGN"]⟩,
  ⟨0x1E7E0, ["aETHIOPIC SYLLABLE HHYAcHHYUcHHYIcHHYAAcHHYEEcHHYEcHHYO"]⟩,
  ⟨0x1E7E8, ["aETHIOPIC SYLLABLE GURAGE HHWAcHHWIcHHWEEcHHWE"]⟩,
  ⟨0x1E7ED, ["aETHIOPIC SYLLABLE GURAGE MWIdMWEE"]⟩,
  ⟨0x1E7F0, [
    "aETHIOPIC SYLLABLE GURAGE QWIdQWEEdQWEdBWIdBWEEdKWIdKWEEdKWEdGWIdGWEEdGWEdFWIdFWEEdPWId",
    "PWEE"]⟩,
  ⟨0x1E800, [
    "aMENDE KIKAKUI SYLLABLE M001 KIdM002 KAdM003 KUdM065 KEEdM095 KEdM076 KOOdM048 KOdM179 KUA",
    "dM004 WIdM005 WAdM006 WUdM126 WEEdM118 WEdM114 WOOdM045 WOdM194 WUIdM143 WEIdM061 WVIdM049",
    " WVAdM139 WVEdM007 MINdM008 MANdM009 MUNdM059 MENdM094 MONdM154 MUANdM189 MUENdM010 BId",
    "M011 BAdM012 BUdM150 BEEdM097 BEdM103 BOOdM138 BOdM013 IdM014 AdM015 UdM163 EEdM100 EdM165",
    " OOdM147 OdM137 EIdM131 INdM135 INdM195 ANdM178 ENdM019 SIdM020 SAdM021 SUdM162 SEEdM116 ",
    "SEdM136 SOOdM079 SOdM196 SIAdM025 LIdM026 LAdM027 LUdM084 LEEdM073 LEdM054 LOOdM153 LOd",
    "M110 LONG LEdM016 DIdM017 DAdM018 DUdM089 DEEdM180 DOOdM181 DOdM022 TIdM023 TAdM024 TUd",
    "M091 TEEdM055 TEdM104 TOOdM069 TOdM028 JIdM029 JAdM030 JUdM157 JEEdM113 JEdM160 JOOdM063 ",
    "JOdM175 LONG JOdM031 YIdM032 YAdM033 YUdM109 YEEdM080 YEdM141 YOOdM121 YOdM034 FIdM035 FAd",
    "M036 FUdM078 FEEdM075 FEdM133 FOOdM088 FOdM197 FUAdM101 FANdM037 NINdM038 NANdM039 NUNd",
    "M117 NENdM169 NONdM176 HIdM041 HAdM186 HUdM040 HEEdM096 HEdM042 HOOdM140 HOdM083 HEEIdM128",
    " HOOUdM053 HINdM130 HANdM087 HUNdM052 HENdM193 HONdM046 HUANdM090 NGGIdM043 NGGAdM082 NGGU",
    "dM115 NGGEEdM146 NGGEdM156 NGGOOdM120 NGGOdM159 NGGAAdM127 NGGUAdM086 LONG NGGEdM106 LONG ",
    "NGGOOdM183 LONG NGGOdM155 GIdM111 GAdM168 GUdM190 GEEdM166 GUEIdM167 GUANdM184 NGENdM057 ",
    "NGONdM177 NGUANdM068 PIdM099 PAdM050 PUdM081 PEEdM051 PEdM102 POOdM066 POdM145 MBIdM062 ",
    "MBAdM122 MBUdM047 MBEEdM188 MBEEdM072 MBEdM172 MBOOdM174 MBOdM187 MBUUdM161 LONG MBEdM105 ",
    "LONG MBOOdM142 LONG MBOdM132 KPIdM092 KPAdM074 KPUdM044 KPEEdM108 KPEdM112 KPOOdM158 KPOd",
    "M124 GBIdM056 GBAdM148 GBUdM093 GBEEdM107 GBEdM071 GBOOdM070 GBOdM171 RAdM123 NDIdM129 NDA",
    "dM125 NDUdM191 NDEEdM119 NDEdM067 NDOOdM064 NDOdM152 NJAdM192 NJUdM149 NJEEdM134 NJOOdM182",
    " VIdM185 VAdM151 VUdM173 VEEdM085 VEdM144 VOOdM077 VOdM164 NYINdM058 NYANdM170 NYUNdM098 ",
    "NYENdM060 NYON"]⟩,
  ⟨0x1E8C7, [
    "aMENDE KIKAKUI DIGIT ONEdTWOdTHREEdFOURdFIVEdSIXdSEVENdEIGHTdNINEcCOMBINING NUMBER TEENSe",
    "TENSeHUNDREDSeTHOUSANDSeTEN THOUSANDSeHUNDRED THOUSANDSeMILLIONS"]⟩,
  ⟨0x1E900, [
    "aADLAM CAPITAL LETTER ALIFdDAALIdLAAMdMIIMdBAdSINNYIIYHEdPEdBHEdRAdEdFAdIdOdDHAdYHEdWAWd",
    "NUNdKAFdYAdUdJIIMdCHIdHAdQAAFdGAdNYAdTUdNHAdVAdKHAdGBEdZALdKPOdSHAbSMALL LETTER ALIFdDAALI",
    "dLAAMdMIIMdBAdSINNYIIYHEdPEdBHEdRAdEdFAdIdOdDHAdYHEdWAWdNUNdKAFdYAdUdJIIMdCHIdHAdQAAFdGAd",
    "NYAdTUdNHAdVAdKHAdGBEdZALdKPOdSHAbALIF LENGTHENERbVOWEL LENGTHENERbGEMINATION MARKbHAMZAb",
    "CONSONANT MODIFIERbGEMINATE CONSONANT MODIFIERbNUKTAbNASALIZATION MARK"]⟩,
  ⟨0x1E950, ["aADLAM DIGIT ZEROcONEcTWOcTHREEcFOURcFIVEcSIXcSEVENcEIGHTcNINE"]⟩,
  ⟨0x1E95E, ["aADLAM INITIAL EXCLAMATION MARKcQUESTION MARK"]⟩,
  ⟨0x1EC71, [
    "aINDIC SIYAQ NUMBER ONEdTWOdTHREEdFOURdFIVEdSIXdSEVENdEIGHTdNINEdTENdTWENTYdTHIRTYdFORTYd",
    "FIFTYdSIXTYdSEVENTYdEIGHTYdNINETYdONE HUNDREDdTWO HUNDREDdTHREE HUNDREDdFOUR HUNDREDdFIVE ",
    "HUNDREDdSIX HUNDREDdSEVEN HUNDREDdEIGHT HUNDREDdNINE HUNDREDdONE THOUSANDdTWO THOUSANDd",
    "THREE THOUSANDdFOUR THOUSANDdFIVE THOUSANDdSIX THOUSANDdSEVEN THOUSANDdEIGHT THOUSANDdNINE",
    " THOUSANDdTEN THOUSANDdTWENTY THOUSANDdTHIRTY THOUSANDdFORTY THOUSANDdFIFTY THOUSANDdSIXTY",
    " THOUSANDdSEVENTY THOUSANDdEIGHTY THOUSANDdNINETY THOUSANDdLAKHdLAKHANcLAKH MARKcNUMBER ",
    "KARORdKARORANdPREFIXED ONEeTWOeTHREEeFOUReFIVEeSIXeSEVENeEIGHTeNINEcPLACEHOLDERcFRACTION ",
    "ONE QUARTEReHALFdTHREE QUARTERScRUPEE MARKcNUMBER ALTERNATE ONEeTWOeTEN THOUSANDcALTERNATE",
    " LAKH MARK"]⟩,
  ⟨0x1ED01, [
    "aOTTOMAN SIYAQ NUMBER ONEdTWOdTHREEdFOURdFIVEdSIXdSEVENdEIGHTdNINEdTENdTWENTYdTHIRTYdFORTY",
    "dFIFTYdSIXTYdSEVENTYdEIGHTYdNINETYdONE HUNDREDdTWO HUNDREDdTHREE HUNDREDdFOUR HUNDREDdFIVE",
    " HUNDREDdSIX HUNDREDdSEVEN HUNDREDdEIGHT HUNDREDdNINE HUNDREDdONE THOUSANDdTWO THOUSANDd",
    "THREE THOUSANDdFOUR THOUSANDdFIVE THOUSANDdSIX THOUSANDdSEVEN THOUSANDdEIGHT THOUSANDdNINE",
    " THOUSANDdTEN THOUSANDdTWENTY THOUSANDdTHIRTY THOUSANDdFORTY THOUSANDdFIFTY THOUSANDdSIXTY",
    " THOUSANDdSEVENTY THOUSANDdEIGHTY THOUSANDdNINETY THOUSANDcMARRATANcALTERNATE NUMBER TWOe",
    "THREEeFOUReFIVEeSIXeSEVENeEIGHTeNINEeTENeFOUR HUNDREDeSIX HUNDREDeTWO THOUSANDeTEN ",
    "THOUSANDcFRACTION ONE HALFeSIXTH"]⟩,
  ⟨0x1EE00, ["aARABIC MATHEMATICAL ALEFcBEHcJEEMcDAL"]⟩,
  ⟨0x1EE05, [
    "aARABIC MATHEMATICAL WAWcZAINcHAHcTAHcYEHcKAFcLAMcMEEMcNOONcSEENcAINcFEHcSADcQAFcREHcSHEEN",
    "cTEHcTHEHcKHAHcTHALcDADcZAHcGHAINcDOTLESS BEHdNOONdFEHdQAF"]⟩,
  ⟨0x1EE21, ["aARABIC MATHEMATICAL INITIAL BEHdJEEM"]⟩,
  ⟨0x1EE24, ["aARABIC MATHEMATICAL INITIAL HEH"]⟩,
  ⟨0x1EE27, ["aARABIC MATHEMATICAL INITIAL HAH"]⟩,
  ⟨0x1EE29, ["aARABIC MATHEMATICAL INITIAL YEHdKAFdLAMdMEEMdNOONdSEENdAINdFEHdSADdQAF"]⟩,
  ⟨0x1EE34, ["aARABIC MATHEMATICAL INITIAL SHEENdTEHdTHEHdKHAH"]⟩,
  ⟨0x1EE39, ["aARABIC MATHEMATICAL INITIAL DAD"]⟩,
  ⟨0x1EE3B, ["aARABIC MATHEMATICAL INITIAL GHAIN"]⟩,
  ⟨0x1EE42, ["aARABIC MATHEMATICAL TAILED JEEM"]⟩,
  ⟨0x1EE47, ["aARABIC MATHEMATICAL TAILED HAH"]⟩,
  ⟨0x1EE49, ["aARABIC MATHEMATICAL TAILED YEH"]⟩,
  ⟨0x1EE4B, ["aARABIC MATHEMATICAL TAILED LAM"]⟩,
  ⟨0x1EE4D, ["aARABIC MATHEMATICAL TAILED NOONdSEENdAIN"]⟩,
  ⟨0x1EE51, ["aARABIC MATHEMATICAL TAILED SADdQAF"]⟩,
  ⟨0x1EE54, ["aARABIC MATHEMATICAL TAILED SHEEN"]⟩,
  ⟨0x1EE57, ["aARABIC MATHEMATICAL TAILED KHAH"]⟩,
  ⟨0x1EE59, ["aARABIC MATHEMATICAL TAILED DAD"]⟩,
  ⟨0x1EE5B, ["aARABIC MATHEMATICAL TAILED GHAIN"]⟩,
  ⟨0x1EE5D, ["aARABIC MATHEMATICAL TAILED DOTLESS NOON"]⟩,
  ⟨0x1EE5F, ["aARABIC MATHEMATICAL TAILED DOTLESS QAF"]⟩,
  ⟨0x1EE61, ["aARABIC MATHEMATICAL STRETCHED BEHdJEEM"]⟩,
  ⟨0x1EE64, ["aARABIC MATHEMATICAL STRETCHED HEH"]⟩,
  ⟨0x1EE67, ["aARABIC MATHEMATICAL STRETCHED HAHdTAHdYEHdKAF"]⟩,
  ⟨0x1EE6C, ["aARABIC MATHEMATICAL STRETCHED MEEMdNOONdSEENdAINdFEHdSADdQAF"]⟩,
  ⟨0x1EE74, ["aARABIC MATHEMATICAL STRETCHED SHEENdTEHdTHEHdKHAH"]⟩,
  ⟨0x1EE79, ["aARABIC MATHEMATICAL STRETCHED DADdZAHdGHAINdDOTLESS BEH"]⟩,
  ⟨0x1EE7E, ["aARABIC MATHEMATICAL STRETCHED DOTLESS FEH"]⟩,
  ⟨0x1EE80, ["aARABIC MATHEMATICAL LOOPED ALEFdBEHdJEEMdDALdHEHdWAWdZAINdHAHdTAHdYEH"]⟩,
  ⟨0x1EE8B, [
    "aARABIC MATHEMATICAL LOOPED LAMdMEEMdNOONdSEENdAINdFEHdSADdQAFdREHdSHEENdTEHdTHEHdKHAHd",
    "THALdDADdZAHdGHAIN"]⟩,
  ⟨0x1EEA1, ["aARABIC MATHEMATICAL DOUBLE-STRUCK BEHeJEEMeDAL"]⟩,
  ⟨0x1EEA5, ["aARABIC MATHEMATICAL DOUBLE-STRUCK WAWeZAINeHAHeTAHeYEH"]⟩,
  ⟨0x1EEAB, [
    "aARABIC MATHEMATICAL DOUBLE-STRUCK LAMeMEEMeNOONeSEENeAINeFEHeSADeQAFeREHeSHEENeTEHeTHEHe",
    "KHAHeTHALeDADeZAHeGHAIN"]⟩,
  ⟨0x1EEF0, ["aARABIC MATHEMATICAL OPERATOR MEEM WITH HAH WITH TATWEELdHAH WITH DAL"]⟩]

end ActionRouting.Text.CharName
