import ActionRouting.Text.CharName

/-! The names of hieroglyphs and of the parts of ideographs. -/
namespace ActionRouting.Text.CharName

/-- The names of hieroglyphs and of the parts of ideographs. -/
def signs : List NameRun := [
  ⟨0x13000, [
    "aEGYPTIAN HIEROGLYPH A001cA002cA003cA004cA005cA005AcA006cA006AcA006BcA007cA008cA009cA010c",
    "A011cA012cA013cA014cA014AcA015cA016cA017cA017AcA018cA019cA020cA021cA022cA023cA024cA025c",
    "A026cA027cA028cA029cA030cA031cA032cA032AcA033cA034cA035cA036cA037cA038cA039cA040cA040Ac",
    "A041cA042cA042AcA043cA043AcA044cA045cA045AcA046cA047cA048cA049cA050cA051cA052cA053cA054c",
    "A055cA056cA057cA058cA059cA060cA061cA062cA063cA064cA065cA066cA067cA068cA069cA070cB001cB002c",
    "B003cB004cB005cB005AcB006cB007cB008cB009cC001cC002cC002AcC002BcC002CcC003cC004cC005cC006c",
    "C007cC008cC009cC010cC010AcC011cC012cC013cC014cC015cC016cC017cC018cC019cC020cC021cC022cC023",
    "cC024cD001cD002cD003cD004cD005cD006cD007cD008cD008AcD009cD010cD011cD012cD013cD014cD015c",
    "D016cD017cD018cD019cD020cD021cD022cD023cD024cD025cD026cD027cD027AcD028cD029cD030cD031c",
    "D031AcD032cD033cD034cD034AcD035cD036cD037cD038cD039cD040cD041cD042cD043cD044cD045cD046c",
    "D046AcD047cD048cD048AcD049cD050cD050AcD050BcD050CcD050DcD050EcD050FcD050GcD050HcD050IcD051",
    "cD052cD052AcD053cD054cD054AcD055cD056cD057cD058cD059cD060cD061cD062cD063cD064cD065cD066c",
    "D067cD067AcD067BcD067CcD067DcD067EcD067FcD067GcD067HcE001cE002cE003cE004cE005cE006cE007c",
    "E008cE008AcE009cE009AcE010cE011cE012cE013cE014cE015cE016cE016AcE017cE017AcE018cE019cE020c",
    "E020AcE021cE022cE023cE024cE025cE026cE027cE028cE028AcE029cE030cE031cE032cE033cE034cE034Ac",
    "E036cE037cE038cF001cF001AcF002cF003cF004cF005cF006cF007cF008cF009cF010cF011cF012cF013c",
    "F013AcF014cF015cF016cF017cF018cF019cF020cF021cF021AcF022cF023cF024cF025cF026cF027cF028c",
    "F029cF030cF031cF031AcF032cF033cF034cF035cF036cF037cF037AcF038cF038AcF039cF040cF041cF042c",
    "F043cF044cF045cF045AcF046cF046AcF047cF047AcF048cF049cF050cF051cF051AcF051BcF051CcF052cF053",
    "cG001cG002cG003cG004cG005cG006cG006AcG007cG007AcG007BcG008cG009cG010cG011cG011AcG012cG013c",
    "G014cG015cG016cG017cG018cG019cG020cG020AcG021cG022cG023cG024cG025cG026cG026AcG027cG028c",
    "G029cG030cG031cG032cG033cG034cG035cG036cG036AcG037cG037AcG038cG039cG040cG041cG042cG043c",
    "G043AcG044cG045cG045AcG046cG047cG048cG049cG050cG051cG052cG053cG054cH001cH002cH003cH004c",
    "H005cH006cH006AcH007cH008cI001cI002cI003cI004cI005cI005AcI006cI007cI008cI009cI009AcI010c",
    "I010AcI011cI011AcI012cI013cI014cI015cK001cK002cK003cK004cK005cK006cK007cK008cL001cL002c",
    "L002AcL003cL004cL005cL006cL006AcL007cL008cM001cM001AcM001BcM002cM003cM003AcM004cM005cM006c",
    "M007cM008cM009cM010cM010AcM011cM012cM012AcM012BcM012CcM012DcM012EcM012FcM012GcM012HcM013c",
    "M014cM015cM015AcM016cM016AcM017cM017AcM018cM019cM020cM021cM022cM022AcM023cM024cM024AcM025c",
    "M026cM027cM028cM028AcM029cM030cM031cM031AcM032cM033cM033AcM033BcM034cM035cM036cM037cM038c",
    "M039cM040cM040AcM041cM042cM043cM044cN001cN002cN003cN004cN005cN006cN007cN008cN009cN010cN011",
    "cN012cN013cN014cN015cN016cN017cN018cN018AcN018BcN019cN020cN021cN022cN023cN024cN025cN025Ac",
    "N026cN027cN028cN029cN030cN031cN032cN033cN033AcN034cN034AcN035cN035AcN036cN037cN037AcN038c",
    "N039cN040cN041cN042cNL001cNL002cNL003cNL004cNL005cNL005AcNL006cNL007cNL008cNL009cNL010c",
    "NL011cNL012cNL013cNL014cNL015cNL016cNL017cNL017AcNL018cNL019cNL020cNU001cNU002cNU003cNU004",
    "cNU005cNU006cNU007cNU008cNU009cNU010cNU010AcNU011cNU011AcNU012cNU013cNU014cNU015cNU016c",
    "NU017cNU018cNU018AcNU019cNU020cNU021cNU022cNU022AcO001cO001AcO002cO003cO004cO005cO005Ac",
    "O006cO006AcO006BcO006CcO006DcO006EcO006FcO007cO008cO009cO010cO010AcO010BcO010CcO011cO012c",
    "O013cO014cO015cO016cO017cO018cO019cO019AcO020cO020AcO021cO022cO023cO024cO024AcO025cO025Ac",
    "O026cO027cO028cO029cO029AcO030cO030AcO031cO032cO033cO033AcO034cO035cO036cO036AcO036BcO036C",
    "cO036DcO037cO038cO039cO040cO041cO042cO043cO044cO045cO046cO047cO048cO049cO050cO050AcO050Bc",
    "O051cP001cP001AcP002cP003cP003AcP004cP005cP006cP007cP008cP009cP010cP011cQ001cQ002cQ003c",
    "Q004cQ005cQ006cQ007cR001cR002cR002AcR003cR003AcR003BcR004cR005cR006cR007cR008cR009cR010c",
    "R010AcR011cR012cR013cR014cR015cR016cR016AcR017cR018cR019cR020cR021cR022cR023cR024cR025c",
    "R026cR027cR028cR029cS001cS002cS002AcS003cS004cS005cS006cS006AcS007cS008cS009cS010cS011c",
    "S012cS013cS014cS014AcS014BcS015cS016cS017cS017AcS018cS019cS020cS021cS022cS023cS024cS025c",
    "S026cS026AcS026BcS027cS028cS029cS030cS031cS032cS033cS034cS035cS035AcS036cS037cS038cS039c",
    "S040cS041cS042cS043cS044cS045cS046cT001cT002cT003cT003AcT004cT005cT006cT007cT007AcT008c",
    "T008AcT009cT009AcT010cT011cT011AcT012cT013cT014cT015cT016cT016AcT017cT018cT019cT020cT021c",
    "T022cT023cT024cT025cT026cT027cT028cT029cT030cT031cT032cT032AcT033cT033AcT034cT035cT036c",
    "U001cU002cU003cU004cU005cU006cU006AcU006BcU007cU008cU009cU010cU011cU012cU013cU014cU015c",
    "U016cU017cU018cU019cU020cU021cU022cU023cU023AcU024cU025cU026cU027cU028cU029cU029AcU030c",
    "U031cU032cU032AcU033cU034cU035cU036cU037cU038cU039cU040cU041cU042cV001cV001AcV001BcV001Cc",
    "V001DcV001EcV001FcV001GcV001HcV001IcV002cV002AcV003cV004cV005cV006cV007cV007AcV007BcV008c",
    "V009cV010cV011cV011AcV011BcV011CcV012cV012AcV012BcV013cV014cV015cV016cV017cV018cV019cV020c",
    "V020AcV020BcV020CcV020DcV020EcV020FcV020GcV020HcV020IcV020JcV020KcV020LcV021cV022cV023c",
    "V023AcV024cV025cV026cV027cV028cV028AcV029cV029AcV030cV030AcV031cV031AcV032cV033cV033AcV034",
    "cV035cV036cV037cV037AcV038cV039cV040cV040AcW001cW002cW003cW003AcW004cW005cW006cW007cW008c",
    "W009cW009AcW010cW010AcW011cW012cW013cW014cW014AcW015cW016cW017cW017AcW018cW018AcW019cW020c",
    "W021cW022cW023cW024cW024AcW025cX001cX002cX003cX004cX004AcX004BcX005cX006cX006AcX007cX008c",
    "X008AcY001cY001AcY002cY003cY004cY005cY006cY007cY008cZ001cZ002cZ002AcZ002BcZ002CcZ002DcZ003",
    "cZ003AcZ003BcZ004cZ004AcZ005cZ005AcZ006cZ007cZ008cZ009cZ010cZ011cZ012cZ013cZ014cZ015cZ015A",
    "cZ015BcZ015CcZ015DcZ015EcZ015FcZ015GcZ015HcZ015IcZ016cZ016AcZ016BcZ016CcZ016DcZ016EcZ016Fc",
    "Z016GcZ016HcAA001cAA002cAA003cAA004cAA005cAA006cAA007cAA007AcAA007BcAA008cAA009cAA010c",
    "AA011cAA012cAA013cAA014cAA015cAA016cAA017cAA018cAA019cAA020cAA021cAA022cAA023cAA024cAA025c",
    "AA026cAA027cAA028cAA029cAA030cAA031cAA032"]⟩,
  ⟨0x13430, [
    "aEGYPTIAN HIEROGLYPH VERTICAL JOINERcHORIZONTAL JOINERcINSERT AT TOP STARTeBOTTOM STARTe",
    "TOP ENDeBOTTOM ENDcOVERLAY MIDDLEcBEGIN SEGMENTcEND SEGMENT"]⟩,
  ⟨0x14400, [
    "aANATOLIAN HIEROGLYPH A001cA002cA003cA004cA005cA006cA007cA008cA009cA010cA010AcA011cA012c",
    "A013cA014cA015cA016cA017cA018cA019cA020cA021cA022cA023cA024cA025cA026cA026AcA027cA028cA029",
    "cA030cA031cA032cA033cA034cA035cA036cA037cA038cA039cA039AcA040cA041cA041AcA042cA043cA044c",
    "A045cA045AcA046cA046AcA046BcA047cA048cA049cA050cA051cA052cA053cA054cA055cA056cA057cA058c",
    "A059cA060cA061cA062cA063cA064cA065cA066cA066AcA066BcA066CcA067cA068cA069cA070cA071cA072c",
    "A073cA074cA075cA076cA077cA078cA079cA080cA081cA082cA083cA084cA085cA086cA087cA088cA089cA090c",
    "A091cA092cA093cA094cA095cA096cA097cA097AcA098cA098AcA099cA100cA100AcA101cA101AcA102cA102Ac",
    "A103cA104cA104AcA104BcA104CcA105cA105AcA105BcA106cA107cA107AcA107BcA107CcA108cA109cA110c",
    "A110AcA110BcA111cA112cA113cA114cA115cA115AcA116cA117cA118cA119cA120cA121cA122cA123cA124c",
    "A125cA125AcA126cA127cA128cA129cA130cA131cA132cA133cA134cA135cA135AcA136cA137cA138cA139c",
    "A140cA141cA142cA143cA144cA145cA146cA147cA148cA149cA150cA151cA152cA153cA154cA155cA156cA157c",
    "A158cA159cA160cA161cA162cA163cA164cA165cA166cA167cA168cA169cA170cA171cA172cA173cA174cA175c",
    "A176cA177cA178cA179cA180cA181cA182cA183cA184cA185cA186cA187cA188cA189cA190cA191cA192cA193c",
    "A194cA195cA196cA197cA198cA199cA200cA201cA202cA202AcA202BcA203cA204cA205cA206cA207cA207Ac",
    "A208cA209cA209AcA210cA211cA212cA213cA214cA215cA215AcA216cA216AcA217cA218cA219cA220cA221c",
    "A222cA223cA224cA225cA226cA227cA227AcA228cA229cA230cA231cA232cA233cA234cA235cA236cA237cA238",
    "cA239cA240cA241cA242cA243cA244cA245cA246cA247cA248cA249cA250cA251cA252cA253cA254cA255cA256",
    "cA257cA258cA259cA260cA261cA262cA263cA264cA265cA266cA267cA267AcA268cA269cA270cA271cA272c",
    "A273cA274cA275cA276cA277cA278cA279cA280cA281cA282cA283cA284cA285cA286cA287cA288cA289cA289A",
    "cA290cA291cA292cA293cA294cA294AcA295cA296cA297cA298cA299cA299AcA300cA301cA302cA303cA304c",
    "A305cA306cA307cA308cA309cA309AcA310cA311cA312cA313cA314cA315cA316cA317cA318cA319cA320cA321",
    "cA322cA323cA324cA325cA326cA327cA328cA329cA329AcA330cA331cA332AcA332BcA332CcA333cA334cA335c",
    "A336cA336AcA336BcA336CcA337cA338cA339cA340cA341cA342cA343cA344cA345cA346cA347cA348cA349c",
    "A350cA351cA352cA353cA354cA355cA356cA357cA358cA359cA359AcA360cA361cA362cA363cA364cA364Ac",
    "A365cA366cA367cA368cA368AcA369cA370cA371cA371AcA372cA373cA374cA375cA376cA377cA378cA379c",
    "A380cA381cA381AcA382cA383 RA OR RIcA383AcA384cA385cA386cA386AcA387cA388cA389cA390cA391c",
    "A392cA393 EIGHTcA394cA395cA396cA397cA398cA399cA400cA401cA402cA403cA404cA405cA406cA407cA408",
    "cA409cA410 BEGIN LOGOGRAM MARKcA410A END LOGOGRAM MARKcA411cA412cA413cA414cA415cA416cA417c",
    "A418cA419cA420cA421cA422cA423cA424cA425cA426cA427cA428cA429cA430cA431cA432cA433cA434cA435c",
    "A436cA437cA438cA439cA440cA441cA442cA443cA444cA445cA446cA447cA448cA449cA450cA450AcA451cA452",
    "cA453cA454cA455cA456cA457cA457AcA458cA459cA460cA461cA462cA463cA464cA465cA466cA467cA468c",
    "A469cA470cA471cA472cA473cA474cA475cA476cA477cA478cA479cA480cA481cA482cA483cA484cA485cA486c",
    "A487cA488cA489cA490cA491cA492cA493cA494cA495cA496cA497cA501cA502cA503cA504cA505cA506cA507c",
    "A508cA509cA510cA511cA512cA513cA514cA515cA516cA517cA518cA519cA520cA521cA522cA523cA524cA525c",
    "A526cA527cA528cA529cA530"]⟩,
  ⟨0x16800, [
    "aBAMUM LETTER PHASE-A NGKUE MFONeGBIEE FONePON MFON PIPAEMGBIEEgPIPAEMBAeNAA MFONe",
    "SHUENSHUETeTITA MFONeNZA MFONeSHINDA PA NJIePON PA NJI PIPAEMGBIEEhPIPAEMBAeMAEMBGBIEEeTU ",
    "MAEMBAeNGANGUeMAEMVEUXeMANSUAEeMVEUAENGAMeSEUNYAMeNTOQPENeKEUKEUTNDAeNKINDIeSUUeNGKUENZEUM",
    "eLAPAQeLET KUTeNTAP MFAAeMAEKEUPePASHAEeGHEUAERAEePAMSHAEeMON NGGEUAETeNZUN MEUTeU YUQ NAE",
    "eGHEUAEGHEUAEeNTAP NTAAeSISAeMGBASAeMEUNJOMNDEUQeMOOMPUQeKAFAePA LEERAEWAeNDA LEERAEWAePET",
    "eMAEMKPENeNIKAePUPeTUAEPeLUAEPeSONJAMeTEUTEUWENeMAENYIeKETeNDAANGGEUAETeKUOQeMOOMEUTeSHUMe",
    "LOMMAEeFIRIeROMeKPOQeSOQeMAP PIEETeSHIRAEeNTAPeSHOQ NSHUT YUMeNYIT MONGKEUAEQePAARAEe",
    "NKAARAEeUNKNOWNeNGGENeMAESIeNJAMeMBANYIeNYETeTEUAENeSOTePAAMeNSHIEEeMAEMeNYIeKAQeNSHAeVEEe",
    "LUeNENeNAQeMBAQd-B NSHUETeTU MAEMGBIEEeSIEEeSET TUeLOM NTEUMeMBA MAELEEeKIEEMeYEURAEe",
    "MBAARAEeKAMePEESHIeYAFU LEERAEWAeLAM NSHUT NYAMeNTIEE SHEUOQeNDU NJAAeGHEUGHEUAEMePITeTU ",
    "NSIEEeSHET NJAQeSHEUAEQTUeMFON TEUAEQeMBIT MBAAKETeNYI NTEUMeKEUPUQeGHEUGHENeKEUYEUXe",
    "LAANAEePARUMeVEUMeNGKINDI MVOPeNGGEU MBUeWUAETeSAKEUAEeTAAMeMEUQeNGGUOQfLARGEeMFIYAQeSUEe",
    "MBEURIeMONTIEENeNYAEMAEePUNGAAMeMEUT NGGEETeFEUXeMBUOQeFEEeKEUAEMeMA NJEUAENAfNJUQAeLETe",
    "NGGAAMeNSENeMAeKIQeNGOMd-C NGKUE MAEMBAeNZAeYUMeWANGKUOQeNGGENeNDEUAEREEeNGKAQeGHARAEe",
    "MBEEKEETeGBAYIeNYIR MKPARAQ MEUNeNTU MBITeMBEUMePIRIEENeNDOMBUeMBAA CABBAGE-TREEe",
    "KEUSHEUAEPeGHAPeKEUKAQeYU MUOMAEeNZEUMeMBUEeNSEUAENeMBITeYEUQeKPARAQeKAAeSEUXeNDIDAe",
    "TAASHAEeNJUEQeTITA YUEeSUAETeNGGUAEN NYAMeVEUXeNANSANAQeMA KEUAERIeNTAAeNGGUONeLAPe",
    "MBIRIEENeMGBASAQeNTEUNGBAeTEUTEUXeNGGUMeFUEeNDEUTeNSAeNSHAQeBUNGeVEUAEPENeMBERAEeRUeNJAEMe",
    "LAMeTITUAEPeNSUOT NGOMeNJEEEEeKETeNGGUeMAESIeMBUAEMeLUeKUTeNJAMeNGOMeWUPeNGGUEETeNSOMeNTEN",
    "eKUOP NKAARAEeNSUNeNDAMeMA NSIEEeYAAeNDAPeSHUEQeSETFONeMBIeMAEMBAeMBANYIeKEUSEUXeMBEUXe",
    "KEUMeMBAA PICKETeYUWOQeNJEUXeMIEEeMUAEeSHIQeKEN LAWfFATIGUEeNGAQeNAQeLIQePINePENeTETd-D ",
    "MBUOeWAPeNJIeMFONeNJIEEeLIEEeNJEUTeNSHEEeNGGAAMAEeNYAMeWUAENeNGKUNeSHEEeNGKAPeKEUAETMEUNe",
    "TEUTeSHEUAEeNJAPeSUEeKETeYAEMMAEeKUOMeSAPeMFEUTeNDEUXeMALEERIeMEUTeSEUAEQeYENeNJEUAEMe",
    "KEUOT MBUAEeNGKEURIeTUeGHAAeNGKYEEeFEUFEUAETeNDEEeMGBOFUMeLEUAEPeNDONeMONIeMGBEUNePUUTe",
    "MGBIEEeMFOeLUMeNSIEEPeMBAAeKWAETeNYETeTEUAENeSOTeYUWOQeKEUMeRAEMeTEEEEeNGKEUAEQeMFEUAEe",
    "NSIEETeKEUPePIPePEUTAEeNYUEeLETeNGGAAMeMFIEEeNGGWAENeYUOMePAPeYUOPeNDAMeNTEUMeSUAEeKUNe",
    "NGGEUXeNGKIEEeTUOTeMEUNeKUQeNSUMeTEUNeMAENJETeNGGAPeLEUMeNGGUOMeNSHUTeNJUEQeGHEUAEeKUeREN ",
    "OLDeTAEeTOQeNYIeRIIeLEEEEeMEEEEeMeSUUeMUeSHIIeSHEUXeKYEEeNUeSHUeNTEEePEEeNIeSHOQePUQeMVOPe",
    "LOQeREN MUCHeTIeNTUUeMBAA SEVENeSAQeFAAd-E NDAPeTOONeMBEUMeLAPeVOMeLOONePAAeSOMeRAQeNSHUOP",
    "eNDUNePUAEeTAMeNGKAeKPEUXeWUOeSEEeNGGEUAETePAAMeTOOeKUOPeLOMeNSHIEEeNGOPeMAEMeNGKEUXeNGOQe",
    "NSHUEeRIMGBAeNJEUXePEEMeSAAeNGGURAEeMGBAeGHEUXeNGKEUAEMeNJAEMLIeMAPeLOOTeNGGEEEEeNDIQeTAEN",
    " NTEUMeSETePUMeNDAA SOFTNESSeNGGUAESHAE NYAMeYIEEeGHEUNeTUAEeYEUAEePOeTUMAEeKEUAEeSUAENe",
    "TEUAEQeVEUAEeWEUXeLAAMePUeTAAQeGHAAMAEeNGEUREUTeSHEUAEQeMGBENeMBEEeNZAQeNKOMeGBETeTUMeKUET",
    "eYAPeNYI CLEAVEReYITeMFEUQeNDIAQePIEEQeYUEQeLEUAEMeFUEeGBEUXeNGKUPeKETeMAEeNGKAAMIeGHETeFA",
    "eNTUMePEUTeYEUMeNGGEUAEeNYI BETWEENeNZUQePOONeMIEEeFUETeNAEeMUAEeGHEUAEeFU IeMVIePUAQe",
    "NGKUMeKUTePIETeNTAPeYEUAETeNGGUPePA PEOPLEeFU CALLeFOMeNJEEeAeTOQeOeIeLAQePA PLURALeTAAe",
    "TAQeNDAA MY HOUSEeSHIQeYEUXeNGUAEeYUAENeYOQ SWIMMINGfCOVEReYUQeYUNeKEUXePEUXeNJEE EPOCHe",
    "PUEeWUEeFEEeVEEeLUeMIeREUXeRAEeNGUAETeNGAeSHOeSHOQeFU REMEDYeNAePIeLOQeKOeMENeMAeMAQeTEUe",
    "KIeMONeTENeFAQeGHOMd-F KAeUeKUeEEeREEeTAEeNYIeLAeRIIeRIEEeMEEEEeTAAeNDAAeNJAEMeMeSUUeSHIIe",
    "SIeSEUXeKYEEeKETeNUAEeNUeNJUAEeYOQeSHUeYAeNSHAePEUXeNTEEeWUEePEEeRUeNIeREUXeKENeNGKWAENe",
    "NGGAeSHOePUAEeFOMeWAeLIeLOQeKOeMBENeRENeMAeMOeMBAAeTETeKPAeSAMBAeVUEQ"]⟩,
  ⟨0x16A40, [
    "aMRO LETTER TAcNGIcYOcMIMcBAcDAcAcPHIcKHAIcHAOcDAIcCHUcKEAAEcOLcMAEMcNINcPAcOOcOcROcSHIc",
    "THEAcEAcWAcEcKOcLANcLAcHAIcRIcTEK"]⟩,
  ⟨0x16A60, ["aMRO DIGIT ZEROcONEcTWOcTHREEcFOURcFIVEcSIXcSEVENcEIGHTcNINE"]⟩,
  ⟨0x16A6E, [
    "aMRO DANDAbDOUBLE DANDAaTANGSA LETTER OZcOCcOQcOXcAZcACcAQcAXcVZcVCcVQcVXcEZcECcEQcEXcIZc",
    "ICcIQcIXcUZcUCcUQcUXcAWZcAWCcAWQcAWXcUIZcUICcUIQcUIXcFINAL NGcLONG UEXcSHORT UEZdAWXcUECc",
    "UEZcUEQcUEXcUIUZcUIUCcUIUQcUIUXcMZcMCcMQcMXcKAcKHAcGAcNGAcSAcYAcWAcPAcNYAcPHAcBAcMAcNAcHAc",
    "LAcHTAcTAcDAcRAcNHAcSHAcCAcTSAcGHAcHTTAcTHAcXAcFAcDHAcCHAcZA"]⟩,
  ⟨0x16AC0, ["aTANGSA DIGIT ZEROcONEcTWOcTHREEcFOURcFIVEcSIXcSEVENcEIGHTcNINE"]⟩,
  ⟨0x16AD0, [
    "aBASSA VAH LETTER ENNIdKAdSEdFAdMBEdYIEdGAHdDHIIdKPAHdJOdHWAHdWAdZOdGBUdDOdCEdUWUdTOdBAdVU",
    "dYEINdPAdWADDAdAdOdOOdUdEEdEdI"]⟩,
  ⟨0x16AF0, [
    "aBASSA VAH COMBINING HIGH TONEdLOW TONEdMID TONEdLOW-MID TONEdHIGH-LOW TONEcFULL STOP"]⟩,
  ⟨0x16B00, [
    "aPAHAWH HMONG VOWEL KEEBdKEEVdKIBdKIVdKAUBdKAUVdKUBdKUVdKEBdKEVdKAIBdKAIVdKOOBdKOOVdKAWBd",
    "KAWVdKUABdKUAVdKOBdKOVdKIABdKIAVdKABdKAVdKWBdKWVdKAABdKAAVcCONSONANT VAUdNTSAUdLAUdHAUd",
    "NLAUdRAUdNKAUdQHAUdYAUdHLAUdMAUdCHAUdNCHAUdHNAUdPLHAUdNTHAUdNAUdAUdXAUdCAUcMARK CIM TUBeSO",
    "eKESeKHAVeSUAMeHOMeTAUMcSIGN VOS THOMeTSHAB CEEBdCIM CHEEMdVOS THIABeFEEMdXYEEM NTXIVeRHOe",
    "TOVeFAIBdVOS SEEVdMEEJ SUABdVOS NRUAdIB YAMdXAUSdCIM TSOV ROG"]⟩,
  ⟨0x16B50, ["aPAHAWH HMONG DIGIT ZEROdONEdTWOdTHREEdFOURdFIVEdSIXdSEVENdEIGHTdNINE"]⟩,
  ⟨0x16B5B, [
    "aPAHAWH HMONG NUMBER TENSdHUNDREDSdTEN THOUSANDSdMILLIONSdHUNDRED MILLIONSdTEN BILLIONSd",
    "TRILLIONS"]⟩,
  ⟨0x16B63, [
    "aPAHAWH HMONG SIGN VOS LUBdXYOOdHLIdTHIRD-STAGE HLIdZWJ THAJdHNUBdNQIGdXIABdNTUJdAVdTXHEEJ",
    " CEEVdMEEJ TSEEBdTAUdLOSdMUSdCIM HAIS LUS NTOG NTOGeCUAM TSHOOJeTXWVfCHWVePUB DAWBeNRES ",
    "TOS"]⟩,
  ⟨0x16B7D, [
    "aPAHAWH HMONG CLAN SIGN TSHEEJeYEEGeLISeLAUJeXYOOJeKOOeHAWJeMUASeTHOJeTSABePHABeKHABeHAMe",
    "VAJeFAJeYAJeTSWBeKWMeVWJ"]⟩,
  ⟨0x16E40, [
    "aMEDEFAIDRIN CAPITAL LETTER MdSdVdWdATIUdZdKPdPdTdGdFdIdKdAdJdEdBdCdUdYUdLdQdHPdNYdXdDdOEd",
    "NdRdOdAIdYbSMALL LETTER MdSdVdWdATIUdZdKPdPdTdGdFdIdKdAdJdEdBdCdUdYUdLdQdHPdNYdXdDdOEdNdRd",
    "OdAIdYbDIGIT ZEROcONEcTWOcTHREEcFOURcFIVEcSIXcSEVENcEIGHTcNINEbNUMBER TENcELEVENcTWELVEc",
    "THIRTEENcFOURTEENcFIFTEENcSIXTEENcSEVENTEENcEIGHTEENcNINETEENbDIGIT ONE ALTERNATE FORMcTWO",
    " ALTERNATE FORMcTHREE ALTERNATE FORMbCOMMAbFULL STOPbSYMBOL AIVAbEXCLAMATION OH"]⟩,
  ⟨0x16F00, [
    "aMIAO LETTER PAcBAcYI PAcPLAcMAcMHAcARCHAIC MAcFAcVAcVFAcTAcDAcYI TTAdTAcTTAcDDAcNAcNHAcYI",
    " NNAcARCHAIC NAcNNAcNNHAcLAcLYAcLHAcLHYAcTLHAcDLHAcTLHYAcDLHYAcKAcGAcYI KAcQAcQGAcNGAcNGHA",
    "cARCHAIC NGAcHAcXAcGHAcGHHAcTSSAcDZZAcNYAcNYHAcTSHAcDZHAcYI TSHAdDZHAcREFORMED TSHAcSHAc",
    "SSAcZHAcZSHAcTSAcDZAcYI TSAcSAcZAcZSAcZZAcZZSAcARCHAIC ZZAcZZYAcZZSYAcWAcAHcHHAcBRIcSYIc",
    "DZYIcTEcTSEcRTE"]⟩,
  ⟨0x16F4F, [
    "aMIAO SIGN CONSONANT MODIFIER BARbLETTER NASALIZATIONbSIGN ASPIRATIONcREFORMED VOICINGd",
    "ASPIRATIONbVOWEL SIGN AdAAdAHHdANdANGdOdOOdWOdWdEdENdENGdOEYdIdIAdIANdIANGdIOdIEdIIdIUdING",
    "dUdUAdUANdUANGdUUdUEIdUNGdYdYIdAEdAEEdERRdROUNDED ERRdERdROUNDED ERdAIdEIdAUdOUdNdNGdUOGd",
    "YUIdOGdOERdVWdIGdEAdIONGdUI"]⟩,
  ⟨0x16F8F, [
    "aMIAO TONE RIGHTcTOP RIGHTcABOVEcBELOWbLETTER TONE-2d-3d-4d-5d-6d-7d-8cREFORMED TONE-1e-2e",
    "-4e-5e-6e-8"]⟩,
  ⟨0x16FE0, [
    "aTANGUT ITERATION MARKaNUSHU ITERATION MARKaOLD CHINESE HOOK MARKcITERATION MARKaKHITAN ",
    "SMALL SCRIPT FILLER"]⟩,
  ⟨0x16FF0, ["aVIETNAMESE ALTERNATE READING MARK CAeNHAY"]⟩,
  ⟨0x18800, [
    "aTANGUT COMPONENT-001c-002c-003c-004c-005c-006c-007c-008c-009c-010c-011c-012c-013c-014c-",
    "015c-016c-017c-018c-019c-020c-021c-022c-023c-024c-025c-026c-027c-028c-029c-030c-031c-032c-",
    "033c-034c-035c-036c-037c-038c-039c-040c-041c-042c-043c-044c-045c-046c-047c-048c-049c-050c-",
    "051c-052c-053c-054c-055c-056c-057c-058c-059c-060c-061c-062c-063c-064c-065c-066c-067c-068c-",
    "069c-070c-071c-072c-073c-074c-075c-076c-077c-078c-079c-080c-081c-082c-083c-084c-085c-086c-",
    "087c-088c-089c-090c-091c-092c-093c-094c-095c-096c-097c-098c-099c-100c-101c-102c-103c-104c-",
    "105c-106c-107c-108c-109c-110c-111c-112c-113c-114c-115c-116c-117c-118c-119c-120c-121c-122c-",
    "123c-124c-125c-126c-127c-128c-129c-130c-131c-132c-133c-134c-135c-136c-137c-138c-139c-140c-",
    "141c-142c-143c-144c-145c-146c-147c-148c-149c-150c-151c-152c-153c-154c-155c-156c-157c-158c-",
    "159c-160c-161c-162c-163c-164c-165c-166c-167c-168c-169c-170c-171c-172c-173c-174c-175c-176c-",
    "177c-178c-179c-180c-181c-182c-183c-184c-185c-186c-187c-188c-189c-190c-191c-192c-193c-194c-",
    "195c-196c-197c-198c-199c-200c-201c-202c-203c-204c-205c-206c-207c-208c-209c-210c-211c-212c-",
    "213c-214c-215c-216c-217c-218c-219c-220c-221c-222c-223c-224c-225c-226c-227c-228c-229c-230c-",
    "231c-232c-233c-234c-235c-236c-237c-238c-239c-240c-241c-242c-243c-244c-245c-246c-247c-248c-",
    "249c-250c-251c-252c-253c-254c-255c-256c-257c-258c-259c-260c-261c-262c-263c-264c-265c-266c-",
    "267c-268c-269c-270c-271c-272c-273c-274c-275c-276c-277c-278c-279c-280c-281c-282c-283c-284c-",
    "285c-286c-287c-288c-289c-290c-291c-292c-293c-294c-295c-296c-297c-298c-299c-300c-301c-302c-",
    "303c-304c-305c-306c-307c-308c-309c-310c-311c-312c-313c-314c-315c-316c-317c-318c-319c-320c-",
    "321c-322c-323c-324c-325c-326c-327c-328c-329c-330c-331c-332c-333c-334c-335c-336c-337c-338c-",
    "339c-340c-341c-342c-343c-344c-345c-346c-347c-348c-349c-350c-351c-352c-353c-354c-355c-356c-",
    "357c-358c-359c-360c-361c-362c-363c-364c-365c-366c-367c-368c-369c-370c-371c-372c-373c-374c-",
    "375c-376c-377c-378c-379c-380c-381c-382c-383c-384c-385c-386c-387c-388c-389c-390c-391c-392c-",
    "393c-394c-395c-396c-397c-398c-399c-400c-401c-402c-403c-404c-405c-406c-407c-408c-409c-410c-",
    "411c-412c-413c-414c-415c-416c-417c-418c-419c-420c-421c-422c-423c-424c-425c-426c-427c-428c-",
    "429c-430c-431c-432c-433c-434c-435c-436c-437c-438c-439c-440c-441c-442c-443c-444c-445c-446c-",
    "447c-448c-449c-450c-451c-452c-453c-454c-455c-456c-457c-458c-459c-460c-461c-462c-463c-464c-",
    "465c-466c-467c-468c-469c-470c-471c-472c-473c-474c-475c-476c-477c-478c-479c-480c-481c-482c-",
    "483c-484c-485c-486c-487c-488c-489c-490c-491c-492c-493c-494c-495c-496c-497c-498c-499c-500c-",
    "501c-502c-503c-504c-505c-506c-507c-508c-509c-510c-511c-512c-513c-514c-515c-516c-517c-518c-",
    "519c-520c-521c-522c-523c-524c-525c-526c-527c-528c-529c-530c-531c-532c-533c-534c-535c-536c-",
    "537c-538c-539c-540c-541c-542c-543c-544c-545c-546c-547c-548c-549c-550c-551c-552c-553c-554c-",
    "555c-556c-557c-558c-559c-560c-561c-562c-563c-564c-565c-566c-567c-568c-569c-570c-571c-572c-",
    "573c-574c-575c-576c-577c-578c-579c-580c-581c-582c-583c-584c-585c-586c-587c-588c-589c-590c-",
    "591c-592c-593c-594c-595c-596c-597c-598c-599c-600c-601c-602c-603c-604c-605c-606c-607c-608c-",
    "609c-610c-611c-612c-613c-614c-615c-616c-617c-618c-619c-620c-621c-622c-623c-624c-625c-626c-",
    "627c-628c-629c-630c-631c-632c-633c-634c-635c-636c-637c-638c-639c-640c-641c-642c-643c-644c-",
    "645c-646c-647c-648c-649c-650c-651c-652c-653c-654c-655c-656c-657c-658c-659c-660c-661c-662c-",
    "663c-664c-665c-666c-667c-668c-669c-670c-671c-672c-673c-674c-675c-676c-677c-678c-679c-680c-",
    "681c-682c-683c-684c-685c-686c-687c-688c-689c-690c-691c-692c-693c-694c-695c-696c-697c-698c-",
    "699c-700c-701c-702c-703c-704c-705c-706c-707c-708c-709c-710c-711c-712c-713c-714c-715c-716c-",
    "717c-718c-719c-720c-721c-722c-723c-724c-725c-726c-727c-728c-729c-730c-731c-732c-733c-734c-",
    "735c-736c-737c-738c-739c-740c-741c-742c-743c-744c-745c-746c-747c-748c-749c-750c-751c-752c-",
    "753c-754c-755c-756c-757c-758c-759c-760c-761c-762c-763c-764c-765c-766c-767c-768"]⟩,
  ⟨0x1AFF0, ["aKATAKANA LETTER MINNAN TONE-2e-3e-4e-5"]⟩,
  ⟨0x1AFF5, ["aKATAKANA LETTER MINNAN TONE-7e-8dNASALIZED TONE-1f-2f-3f-4f-5"]⟩,
  ⟨0x1AFFD, ["aKATAKANA LETTER MINNAN NASALIZED TONE-7f-8"]⟩,
  ⟨0x1B000, [
    "aKATAKANA LETTER ARCHAIC EaHIRAGANA LETTER ARCHAIC YEaHENTAIGANA LETTER A-1d-2d-3d-WOcI-1d",
    "-2d-3d-4cU-1d-2d-3d-4d-5cE-2d-3d-4d-5d-6cO-1d-2d-3cKA-1d-2d-3d-4d-5d-6d-7d-8d-9d-10d-11d-",
    "KEcKI-1d-2d-3d-4d-5d-6d-7d-8cKU-1d-2d-3d-4d-5d-6d-7cKE-1d-2d-3d-4d-5d-6cKO-1d-2d-3d-KIcSA-",
    "1d-2d-3d-4d-5d-6d-7d-8cSI-1d-2d-3d-4d-5d-6cSU-1d-2d-3d-4d-5d-6d-7d-8cSE-1d-2d-3d-4d-5cSO-1",
    "d-2d-3d-4d-5d-6d-7cTA-1d-2d-3d-4cTI-1d-2d-3d-4d-5d-6d-7cTU-1d-2d-3d-4d-TOcTE-1d-2d-3d-4d-5",
    "d-6d-7d-8d-9cTO-1d-2d-3d-4d-5d-6d-RAcNA-1d-2d-3d-4d-5d-6d-7d-8d-9cNI-1d-2d-3d-4d-5d-6d-7d-",
    "TEcNU-1d-2d-3cNE-1d-2d-3d-4d-5d-6d-KOcNO-1d-2d-3d-4d-5cHA-1d-2d-3d-4d-5d-6d-7d-8d-9d-10d-",
    "11cHI-1d-2d-3d-4d-5d-6d-7cHU-1d-2d-3cHE-1d-2d-3d-4d-5d-6d-7cHO-1d-2d-3d-4d-5d-6d-7d-8cMA-1",
    "d-2d-3d-4d-5d-6d-7cMI-1d-2d-3d-4d-5d-6d-7cMU-1d-2d-3d-4cME-1d-2d-MAcMO-1d-2d-3d-4d-5d-6cYA",
    "-1d-2d-3d-4d-5d-YOcYU-1d-2d-3d-4cYO-1d-2d-3d-4d-5d-6cRA-1d-2d-3d-4cRI-1d-2d-3d-4d-5d-6d-7c",
    "RU-1d-2d-3d-4d-5d-6cRE-1d-2d-3d-4cRO-1d-2d-3d-4d-5d-6cWA-1d-2d-3d-4d-5cWI-1d-2d-3d-4d-5cWE",
    "-1d-2d-3d-4cWO-1d-2d-3d-4d-5d-6d-7cN-MU-MO-1f-2aHIRAGANA LETTER ARCHAIC WUaKATAKANA LETTER",
    " ARCHAIC YIdYEdWU"]⟩,
  ⟨0x1B150, ["aHIRAGANA LETTER SMALL WIdWEdWO"]⟩,
  ⟨0x1B164, ["aKATAKANA LETTER SMALL WIdWEdWOdN"]⟩,
  ⟨0x1BC00, [
    "aDUPLOYAN LETTER HcXcPcTcFcKcLcBcDcVcGcRcP NcD ScF NcK McR ScTHcSLOAN DHcDHcKKcSLOAN JcHLc",
    "LHcRHcMcNcJcScM NcN McJ McS JcM WITH DOTcN WITH DOTcJ WITH DOTeDOTS INSIDE AND ABOVEcS ",
    "WITH DOTfBELOWcM ScN ScJ ScS ScM N ScN M ScJ M ScS J ScJ S WITH DOTdNeScS TeRdPeRcT SdR Sc",
    "WcWHcW RcS NdMcK R ScG R ScS KeRcAcSLOAN OWcOAcOcAOUcIcEcIEcSHORT IcUIcEEcSLOAN EHc",
    "ROMANIAN IcSLOAN EEcLONG IcYEcUcEUcXWcU NcLONG UcROMANIAN UcUHcSLOAN UcOOHcOWcOUcWAcWOcWIc",
    "WEIcWOWcNASAL UdOdIdAcPERNIN ANdAMcSLOAN ENdANdONcVOCALIC M"]⟩,
  ⟨0x1BC70, [
    "aDUPLOYAN AFFIX LEFT HORIZONTAL SECANTcMID HORIZONTAL SECANTcRIGHT HORIZONTAL SECANTcLOW ",
    "VERTICAL SECANTcMID VERTICAL SECANTcHIGH VERTICAL SECANTcATTACHED SECANTdLEFT-TO-RIGHT ",
    "SECANTdTANGENTdTAILdE HOOKdI HOOKdTANGENT HOOK"]⟩,
  ⟨0x1BC80, [
    "aDUPLOYAN AFFIX HIGH ACUTEdTIGHT ACUTEdGRAVEdLONG GRAVEdDOTdCIRCLEdLINEdWAVEdVERTICAL"]⟩,
  ⟨0x1BC90, [
    "aDUPLOYAN AFFIX LOW ACUTEdTIGHT ACUTEdGRAVEdLONG GRAVEdDOTdCIRCLEdLINEdWAVEdVERTICALdARROW"]⟩,
  ⟨0x1BC9C, [
    "aDUPLOYAN SIGN O WITH CROSSbTHICK LETTER SELECTORbDOUBLE MARKbPUNCTUATION CHINOOK FULL ",
    "STOPaSHORTHAND FORMAT LETTER OVERLAPcCONTINUING OVERLAPcDOWN STEPcUP STEP"]⟩,
  ⟨0x1CF00, [
    "aZNAMENNY COMBINING MARK GORAZDO NIZKO S KRYZHEM ON LEFTdNIZKO S KRYZHEM ON LEFTdTSATA ON ",
    "LEFTdGORAZDO NIZKO ON LEFTdNIZKO ON LEFTdSREDNE ON LEFTdMALO POVYSHE ON LEFTdPOVYSHE ON ",
    "LEFTdVYSOKO ON LEFTdMALO POVYSHE S KHOKHLOM ON LEFTdPOVYSHE S KHOKHLOM ON LEFTdVYSOKO S ",
    "KHOKHLOM ON LEFTdGORAZDO NIZKO S KRYZHEM ON RIGHTdNIZKO S KRYZHEM ON RIGHTdTSATA ON RIGHTd",
    "GORAZDO NIZKO ON RIGHTdNIZKO ON RIGHTdSREDNE ON RIGHTdMALO POVYSHE ON RIGHTdPOVYSHE ON ",
    "RIGHTdVYSOKO ON RIGHTdMALO POVYSHE S KHOKHLOM ON RIGHTdPOVYSHE S KHOKHLOM ON RIGHTdVYSOKO ",
    "S KHOKHLOM ON RIGHTdTSATA S KRYZHEMdMALO POVYSHE S KRYZHEMdSTRANNO MALO POVYSHEdPOVYSHE S ",
    "KRYZHEMeSTRANNOdVYSOKO S KRYZHEMdMALO POVYSHE STRANNOdGORAZDO VYSOKOdZELOdONdRAVNOdTIKHAYA",
    "dBORZAYAdUDARKAdPODVERTKAdLOMKAdKUPNAYAdKACHKAdZEVOKdSKOBAdRAZSEKAdKRYZH ON LEFT"]⟩,
  ⟨0x1CF30, [
    "aZNAMENNY COMBINING TONAL RANGE MARK MRACHNOfSVETLOfTRESVETLOcMARK ZADERZHKAdDEMESTVENNY ",
    "ZADERZHKAdOTSECHKAdPODCHASHIEeWITH VERTICAL STROKEdCHASHKAePOLNAYAdOBLACHKOdSOROCHYA ",
    "NOZHKAdTOCHKAdDVOETOCHIEcATTACHING VERTICAL OMETcMARK CURVED OMETdKRYZHcLOWER TONAL RANGE ",
    "INDICATORbPRIZNAK MODIFIER LEVEL-2e-3dDIRECTION FLIPdKRYZHdROG"]⟩,
  ⟨0x1CF50, [
    "aZNAMENNY NEUME KRYUKdTIKHYcPARAKLITcDVA V CHELNUcKLYUCHcZANOZHEKcSTOPITSAdS OCHKOMc",
    "PEREVODKAdNEPOSTOYANNAYAcSTOPITSA WITH SOROCHYA NOZHKAcCHELYUSTKAcPALKAcZAPYATAYAc",
    "GOLUBCHIK BORZYdTIKHYdMRACHNYdSVETLYdTRESVETLYcVRAKHIYA PROSTAYAdMRACHNAYAdSVETLAYAd",
    "TRESVETLAYAdKLYUCHEVAYA PROSTAYAeMRACHNAYAeSVETLAYAeTRESVETLAYAcDOUBLE ZAPYATAYAcREVERSED ",
    "CHELYUSTKAcDERBITSAcKHAMILOcCHASHKAcPODCHASHIEcSKAMEYTSA MRACHNAYAdSVETLAYAdTRESVETLAYAd",
    "TIKHAYAcDEMESTVENNY KLYUCHcSKAMEYTSA KLYUCHEVAYA SVETLAYAdKLYUCHENEPOSTOYANNAYAd",
    "KLYUCHEVAYA TIKHAYAdDVOECHELNAYA PROSTAYAeSVETLAYAeNEPOSTOYANNAYAeKLYUCHEVAYAcSLOZHITIEdS ",
    "ZAPYATOYdZAKRYTOEdS KRYZHEMcKRYZHcROGcFITAcKOBYLAcZMEYTSAcSTATYAdS ZAPYATOYeKRYZHEMe",
    "ZAPYATOY I KRYZHEMeKRYZHEM I ZAPYATOYdZAKRYTAYAeS ZAPYATOYdS ROGOMeDVUMYA ZAPYATYMIe",
    "ZAPYATOY I PODCHASHIEMcPOLKULIZMYcSTATYA NEPOSTOYANNAYAcSTRELA PROSTAYAdMRACHNOTIKHAYAd",
    "KRYZHEVAYAdPOLUPOVODNAYAdPOVODNAYAdNEPOSTOYANNAYAdKLYUCHEPOVODNAYAdKLYUCHENEPOSTOYANNAYAd",
    "TIKHAYA PUTNAYAdDVOECHELNAYAdDVOECHELNOKRYZHEVAYAdDVOECHELNOPOVODNAYAdDVOECHELNAYA ",
    "KLYUCHEVAYAdDVOECHELNOPOVODNAYA KLYUCHEVAYAdGROMNAYA WITH SINGLE ZAPYATAYAdGROMOPOVODNAYA ",
    "WITH SINGLE ZAPYATAYAdGROMNAYAdGROMOPOVODNAYAeWITH DOUBLE ZAPYATAYAdGROMOKRYZHEVAYAe",
    "POVODNAYAcMECHIKdPOVODNYdKLYUCHEVOYdKLYUCHEPOVODNYdKLYUCHENEPOSTOYANNYcSTRELA ",
    "TRYASOGLASNAYAdTRYASOPOVODNAYAdTRYASOSTRELNAYAcOSOKAdSVETLAYAdTRESVETLAYAdKRYUKOVAYA ",
    "SVETLAYAdKLYUCHEVAYA SVETLAYAeNEPOSTOYANNAYAcSTRELA KRYUKOVAYAePOVODNAYAeGROMNAYA WITH ",
    "SINGLE ZAPYATAYAeGROMOPOVODNAYA WITH SINGLE ZAPYATAYAeGROMNAYAeGROMOPOVODNAYAfWITH DOUBLE ",
    "ZAPYATAYAeGROMOKRYZHEVAYAfPOVODNAYAeTRYASKAcKUFISMAcOBLAKOcDUDAcNEMKAcPAUK"]⟩]

end ActionRouting.Text.CharName
