/-!
# Names of emoji

An emoji stands under its name, as the codes of its characters with hyphens between them.
-/

namespace PortableSql.Report

/-- Emoji of people, which have variants for the tones of skin. -/
def tonedEmoji : List String :=
  ["mrs._claus=1f936;ok_hand=1f44c;santa_claus=1f385;adult=1f9d1;baby=1f476;baby_angel=1f47c",
    "backhand_index_pointing_down=1f447;backhand_index_pointing_left=1f448",
    "backhand_index_pointing_right=1f449;backhand_index_pointing_up=1f446;bearded_person=1f9d4",
    "blond-haired_man=1f471-200d-2642-fe0f;blond-haired_person=1f471",
    "blond-haired_woman=1f471-200d-2640-fe0f;boy=1f466;breast-feeding=1f931;bride_with_veil=1f470",
    "call_me_hand=1f919;child=1f9d2;clapping_hands=1f44f;construction_worker=1f477",
    "crossed_fingers=1f91e;detective=1f575;ear=1f442;elf=1f9dd;fairy=1f9da;flexed_biceps=1f4aa",
    "folded_hands=1f64f;girl=1f467;guard=1f482;hand_with_fingers_splayed=1f590;horse_racing=1f3c7",
    "index_pointing_up=261d;left-facing_fist=1f91b;love-you_gesture=1f91f;mage=1f9d9;man=1f468",
    "man_artist=1f468-200d-1f3a8;man_astronaut=1f468-200d-1f680;man_biking=1f6b4-200d-2642-fe0f",
    "man_bouncing_ball=26f9-fe0f-200d-2642-fe0f;man_bowing=1f647-200d-2642-fe0f",
    "man_cartwheeling=1f938-200d-2642-fe0f;man_climbing=1f9d7-200d-2642-fe0f",
    "man_construction_worker=1f477-200d-2642-fe0f;man_cook=1f468-200d-1f373;man_dancing=1f57a",
    "man_detective=1f575-fe0f-200d-2642-fe0f;man_elf=1f9dd-200d-2642-fe0f",
    "man_facepalming=1f926-200d-2642-fe0f;man_factory_worker=1f468-200d-1f3ed",
    "man_fairy=1f9da-200d-2642-fe0f;man_farmer=1f468-200d-1f33e;man_firefighter=1f468-200d-1f692",
    "man_frowning=1f64d-200d-2642-fe0f;man_gesturing_no=1f645-200d-2642-fe0f",
    "man_gesturing_ok=1f646-200d-2642-fe0f;man_getting_haircut=1f487-200d-2642-fe0f",
    "man_getting_massage=1f486-200d-2642-fe0f;man_golfing=1f3cc-fe0f-200d-2642-fe0f",
    "man_guard=1f482-200d-2642-fe0f;man_health_worker=1f468-200d-2695-fe0f",
    "man_in_lotus_position=1f9d8-200d-2642-fe0f;man_in_steamy_room=1f9d6-200d-2642-fe0f",
    "man_in_suit_levitating=1f574;man_in_tuxedo=1f935;man_judge=1f468-200d-2696-fe0f",
    "man_juggling=1f939-200d-2642-fe0f;man_lifting_weights=1f3cb-fe0f-200d-2642-fe0f",
    "man_mage=1f9d9-200d-2642-fe0f;man_mechanic=1f468-200d-1f527",
    "man_mountain_biking=1f6b5-200d-2642-fe0f;man_office_worker=1f468-200d-1f4bc",
    "man_pilot=1f468-200d-2708-fe0f;man_playing_handball=1f93e-200d-2642-fe0f",
    "man_playing_water_polo=1f93d-200d-2642-fe0f;man_police_officer=1f46e-200d-2642-fe0f",
    "man_pouting=1f64e-200d-2642-fe0f;man_raising_hand=1f64b-200d-2642-fe0f",
    "man_rowing_boat=1f6a3-200d-2642-fe0f;man_running=1f3c3-200d-2642-fe0f",
    "man_scientist=1f468-200d-1f52c;man_shrugging=1f937-200d-2642-fe0f;man_singer=1f468-200d-1f3a4",
    "man_student=1f468-200d-1f393;man_surfing=1f3c4-200d-2642-fe0f",
    "man_swimming=1f3ca-200d-2642-fe0f;man_teacher=1f468-200d-1f3eb",
    "man_technologist=1f468-200d-1f4bb;man_tipping_hand=1f481-200d-2642-fe0f",
    "man_vampire=1f9db-200d-2642-fe0f;man_walking=1f6b6-200d-2642-fe0f",
    "man_wearing_turban=1f473-200d-2642-fe0f;man_with_chinese_cap=1f472",
    "mermaid=1f9dc-200d-2640-fe0f;merman=1f9dc-200d-2642-fe0f;merperson=1f9dc;middle_finger=1f595",
    "nail_polish=1f485;nose=1f443;old_man=1f474;old_woman=1f475;older_adult=1f9d3",
    "oncoming_fist=1f44a;open_hands=1f450;palms_up_together=1f932;person_biking=1f6b4",
    "person_bouncing_ball=26f9;person_bowing=1f647;person_cartwheeling=1f938;person_climbing=1f9d7",
    "person_facepalming=1f926;person_frowning=1f64d;person_gesturing_no=1f645",
    "person_gesturing_ok=1f646;person_getting_haircut=1f487;person_getting_massage=1f486",
    "person_golfing=1f3cc;person_in_bed=1f6cc;person_in_lotus_position=1f9d8",
    "person_in_steamy_room=1f9d6;person_juggling=1f939;person_lifting_weights=1f3cb",
    "person_mountain_biking=1f6b5;person_playing_handball=1f93e;person_playing_water_polo=1f93d",
    "person_pouting=1f64e;person_raising_hand=1f64b;person_rowing_boat=1f6a3;person_running=1f3c3",
    "person_shrugging=1f937;person_surfing=1f3c4;person_swimming=1f3ca;person_taking_bath=1f6c0",
    "person_tipping_hand=1f481;person_walking=1f6b6;person_wearing_turban=1f473",
    "police_officer=1f46e;pregnant_woman=1f930;prince=1f934;princess=1f478",
    "raised_back_of_hand=1f91a;raised_fist=270a;raised_hand=270b;raising_hands=1f64c",
    "right-facing_fist=1f91c;selfie=1f933;sign_of_the_horns=1f918;snowboarder=1f3c2",
    "thumbs_down=1f44e;thumbs_up=1f44d;vampire=1f9db;victory_hand=270c;vulcan_salute=1f596",
    "waving_hand=1f44b;woman=1f469;woman_artist=1f469-200d-1f3a8;woman_astronaut=1f469-200d-1f680",
    "woman_biking=1f6b4-200d-2640-fe0f;woman_bouncing_ball=26f9-fe0f-200d-2640-fe0f",
    "woman_bowing=1f647-200d-2640-fe0f;woman_cartwheeling=1f938-200d-2640-fe0f",
    "woman_climbing=1f9d7-200d-2640-fe0f;woman_construction_worker=1f477-200d-2640-fe0f",
    "woman_cook=1f469-200d-1f373;woman_dancing=1f483;woman_detective=1f575-fe0f-200d-2640-fe0f",
    "woman_elf=1f9dd-200d-2640-fe0f;woman_facepalming=1f926-200d-2640-fe0f",
    "woman_factory_worker=1f469-200d-1f3ed;woman_fairy=1f9da-200d-2640-fe0f",
    "woman_farmer=1f469-200d-1f33e;woman_firefighter=1f469-200d-1f692",
    "woman_frowning=1f64d-200d-2640-fe0f;woman_gesturing_no=1f645-200d-2640-fe0f",
    "woman_gesturing_ok=1f646-200d-2640-fe0f;woman_getting_haircut=1f487-200d-2640-fe0f",
    "woman_getting_massage=1f486-200d-2640-fe0f;woman_golfing=1f3cc-fe0f-200d-2640-fe0f",
    "woman_guard=1f482-200d-2640-fe0f;woman_health_worker=1f469-200d-2695-fe0f",
    "woman_in_lotus_position=1f9d8-200d-2640-fe0f;woman_in_steamy_room=1f9d6-200d-2640-fe0f",
    "woman_judge=1f469-200d-2696-fe0f;woman_juggling=1f939-200d-2640-fe0f",
    "woman_lifting_weights=1f3cb-fe0f-200d-2640-fe0f;woman_mage=1f9d9-200d-2640-fe0f",
    "woman_mechanic=1f469-200d-1f527;woman_mountain_biking=1f6b5-200d-2640-fe0f",
    "woman_office_worker=1f469-200d-1f4bc;woman_pilot=1f469-200d-2708-fe0f",
    "woman_playing_handball=1f93e-200d-2640-fe0f;woman_playing_water_polo=1f93d-200d-2640-fe0f",
    "woman_police_officer=1f46e-200d-2640-fe0f;woman_pouting=1f64e-200d-2640-fe0f",
    "woman_raising_hand=1f64b-200d-2640-fe0f;woman_rowing_boat=1f6a3-200d-2640-fe0f",
    "woman_running=1f3c3-200d-2640-fe0f;woman_scientist=1f469-200d-1f52c",
    "woman_shrugging=1f937-200d-2640-fe0f;woman_singer=1f469-200d-1f3a4",
    "woman_student=1f469-200d-1f393;woman_surfing=1f3c4-200d-2640-fe0f",
    "woman_swimming=1f3ca-200d-2640-fe0f;woman_teacher=1f469-200d-1f3eb",
    "woman_technologist=1f469-200d-1f4bb;woman_tipping_hand=1f481-200d-2640-fe0f",
    "woman_vampire=1f9db-200d-2640-fe0f;woman_walking=1f6b6-200d-2640-fe0f",
    "woman_wearing_turban=1f473-200d-2640-fe0f;woman_with_headscarf=1f9d5;writing_hand=270d"]

/-- Other emoji. -/
def plainEmoji : List String :=
  ["1st_place_medal=1f947;2nd_place_medal=1f948;3rd_place_medal=1f949;ab_button_(blood_type)=1f18e",
    "atm_sign=1f3e7;a_button_(blood_type)=1f170;afghanistan=1f1e6-1f1eb;albania=1f1e6-1f1f1",
    "algeria=1f1e9-1f1ff;american_samoa=1f1e6-1f1f8;andorra=1f1e6-1f1e9;angola=1f1e6-1f1f4",
    "anguilla=1f1e6-1f1ee;antarctica=1f1e6-1f1f6;antigua_&_barbuda=1f1e6-1f1ec;aquarius=2652",
    "argentina=1f1e6-1f1f7;aries=2648;armenia=1f1e6-1f1f2;aruba=1f1e6-1f1fc",
    "ascension_island=1f1e6-1f1e8;australia=1f1e6-1f1fa;austria=1f1e6-1f1f9;azerbaijan=1f1e6-1f1ff",
    "back_arrow=1f519;b_button_(blood_type)=1f171;bahamas=1f1e7-1f1f8;bahrain=1f1e7-1f1ed",
    "bangladesh=1f1e7-1f1e9;barbados=1f1e7-1f1e7;belarus=1f1e7-1f1fe;belgium=1f1e7-1f1ea",
    "belize=1f1e7-1f1ff;benin=1f1e7-1f1ef;bermuda=1f1e7-1f1f2;bhutan=1f1e7-1f1f9",
    "bolivia=1f1e7-1f1f4;bosnia_&_herzegovina=1f1e7-1f1e6;botswana=1f1e7-1f1fc",
    "bouvet_island=1f1e7-1f1fb;brazil=1f1e7-1f1f7;british_indian_ocean_territory=1f1ee-1f1f4",
    "british_virgin_islands=1f1fb-1f1ec;brunei=1f1e7-1f1f3;bulgaria=1f1e7-1f1ec",
    "burkina_faso=1f1e7-1f1eb;burundi=1f1e7-1f1ee;cl_button=1f191;cool_button=1f192",
    "cambodia=1f1f0-1f1ed;cameroon=1f1e8-1f1f2;canada=1f1e8-1f1e6;canary_islands=1f1ee-1f1e8",
    "cancer=264b;cape_verde=1f1e8-1f1fb;capricorn=2651;caribbean_netherlands=1f1e7-1f1f6",
    "cayman_islands=1f1f0-1f1fe;central_african_republic=1f1e8-1f1eb;ceuta_&_melilla=1f1ea-1f1e6",
    "chad=1f1f9-1f1e9;chile=1f1e8-1f1f1;china=1f1e8-1f1f3;christmas_island=1f1e8-1f1fd",
    "christmas_tree=1f384;clipperton_island=1f1e8-1f1f5;cocos_(keeling)_islands=1f1e8-1f1e8",
    "colombia=1f1e8-1f1f4;comoros=1f1f0-1f1f2;congo_-_brazzaville=1f1e8-1f1ec",
    "congo_-_kinshasa=1f1e8-1f1e9;cook_islands=1f1e8-1f1f0;costa_rica=1f1e8-1f1f7",
    "croatia=1f1ed-1f1f7;cuba=1f1e8-1f1fa;curaçao=1f1e8-1f1fc;cyprus=1f1e8-1f1fe",
    "czechia=1f1e8-1f1ff;côte_d’ivoire=1f1e8-1f1ee;denmark=1f1e9-1f1f0;diego_garcia=1f1e9-1f1ec",
    "djibouti=1f1e9-1f1ef;dominica=1f1e9-1f1f2;dominican_republic=1f1e9-1f1f4;end_arrow=1f51a",
    "ecuador=1f1ea-1f1e8;egypt=1f1ea-1f1ec;el_salvador=1f1f8-1f1fb",
    "england=1f3f4-e0067-e0062-e0065-e006e-e0067-e007f;equatorial_guinea=1f1ec-1f1f6",
    "eritrea=1f1ea-1f1f7;estonia=1f1ea-1f1ea;ethiopia=1f1ea-1f1f9;european_union=1f1ea-1f1fa",
    "free_button=1f193;falkland_islands=1f1eb-1f1f0;faroe_islands=1f1eb-1f1f4;fiji=1f1eb-1f1ef",
    "finland=1f1eb-1f1ee;france=1f1eb-1f1f7;french_guiana=1f1ec-1f1eb;french_polynesia=1f1f5-1f1eb",
    "french_southern_territories=1f1f9-1f1eb;gabon=1f1ec-1f1e6;gambia=1f1ec-1f1f2;gemini=264a",
    "georgia=1f1ec-1f1ea;germany=1f1e9-1f1ea;ghana=1f1ec-1f1ed;gibraltar=1f1ec-1f1ee",
    "greece=1f1ec-1f1f7;greenland=1f1ec-1f1f1;grenada=1f1ec-1f1e9;guadeloupe=1f1ec-1f1f5",
    "guam=1f1ec-1f1fa;guatemala=1f1ec-1f1f9;guernsey=1f1ec-1f1ec;guinea=1f1ec-1f1f3",
    "guinea-bissau=1f1ec-1f1fc;guyana=1f1ec-1f1fe;haiti=1f1ed-1f1f9",
    "heard_&_mcdonald_islands=1f1ed-1f1f2;honduras=1f1ed-1f1f3;hong_kong_sar_china=1f1ed-1f1f0",
    "hungary=1f1ed-1f1fa;id_button=1f194;iceland=1f1ee-1f1f8;india=1f1ee-1f1f3",
    "indonesia=1f1ee-1f1e9;iran=1f1ee-1f1f7;iraq=1f1ee-1f1f6;ireland=1f1ee-1f1ea",
    "isle_of_man=1f1ee-1f1f2;israel=1f1ee-1f1f1;italy=1f1ee-1f1f9;jamaica=1f1ef-1f1f2;japan=1f5fe",
    "japanese_acceptable_button=1f251;japanese_application_button=1f238",
    "japanese_bargain_button=1f250;japanese_castle=1f3ef;japanese_congratulations_button=3297",
    "japanese_discount_button=1f239;japanese_dolls=1f38e;japanese_free_of_charge_button=1f21a",
    "japanese_here_button=1f201;japanese_monthly_amount_button=1f237",
    "japanese_no_vacancy_button=1f235;japanese_not_free_of_charge_button=1f236",
    "japanese_open_for_business_button=1f23a;japanese_passing_grade_button=1f234",
    "japanese_post_office=1f3e3;japanese_prohibited_button=1f232;japanese_reserved_button=1f22f",
    "japanese_secret_button=3299;japanese_service_charge_button=1f202",
    "japanese_symbol_for_beginner=1f530;japanese_vacancy_button=1f233;jersey=1f1ef-1f1ea",
    "jordan=1f1ef-1f1f4;kazakhstan=1f1f0-1f1ff;kenya=1f1f0-1f1ea;kiribati=1f1f0-1f1ee",
    "kosovo=1f1fd-1f1f0;kuwait=1f1f0-1f1fc;kyrgyzstan=1f1f0-1f1ec;laos=1f1f1-1f1e6",
    "latvia=1f1f1-1f1fb;lebanon=1f1f1-1f1e7;leo=264c;lesotho=1f1f1-1f1f8;liberia=1f1f1-1f1f7",
    "libra=264e;libya=1f1f1-1f1fe;liechtenstein=1f1f1-1f1ee;lithuania=1f1f1-1f1f9",
    "luxembourg=1f1f1-1f1fa;macau_sar_china=1f1f2-1f1f4;macedonia=1f1f2-1f1f0",
    "madagascar=1f1f2-1f1ec;malawi=1f1f2-1f1fc;malaysia=1f1f2-1f1fe;maldives=1f1f2-1f1fb",
    "mali=1f1f2-1f1f1;malta=1f1f2-1f1f9;marshall_islands=1f1f2-1f1ed;martinique=1f1f2-1f1f6",
    "mauritania=1f1f2-1f1f7;mauritius=1f1f2-1f1fa;mayotte=1f1fe-1f1f9;mexico=1f1f2-1f1fd",
    "micronesia=1f1eb-1f1f2;moldova=1f1f2-1f1e9;monaco=1f1f2-1f1e8;mongolia=1f1f2-1f1f3",
    "montenegro=1f1f2-1f1ea;montserrat=1f1f2-1f1f8;morocco=1f1f2-1f1e6;mozambique=1f1f2-1f1ff",
    "myanmar_(burma)=1f1f2-1f1f2;new_button=1f195;ng_button=1f196;namibia=1f1f3-1f1e6",
    "nauru=1f1f3-1f1f7;nepal=1f1f3-1f1f5;netherlands=1f1f3-1f1f1;new_caledonia=1f1f3-1f1e8",
    "new_zealand=1f1f3-1f1ff;nicaragua=1f1f3-1f1ee;niger=1f1f3-1f1ea;nigeria=1f1f3-1f1ec",
    "niue=1f1f3-1f1fa;norfolk_island=1f1f3-1f1eb;north_korea=1f1f0-1f1f5",
    "northern_mariana_islands=1f1f2-1f1f5;norway=1f1f3-1f1f4;ok_button=1f197;on!_arrow=1f51b",
    "o_button_(blood_type)=1f17e;oman=1f1f4-1f1f2;ophiuchus=26ce;p_button=1f17f",
    "pakistan=1f1f5-1f1f0;palau=1f1f5-1f1fc;palestinian_territories=1f1f5-1f1f8;panama=1f1f5-1f1e6",
    "papua_new_guinea=1f1f5-1f1ec;paraguay=1f1f5-1f1fe;peru=1f1f5-1f1ea;philippines=1f1f5-1f1ed",
    "pisces=2653;pitcairn_islands=1f1f5-1f1f3;poland=1f1f5-1f1f1;portugal=1f1f5-1f1f9",
    "puerto_rico=1f1f5-1f1f7;qatar=1f1f6-1f1e6;romania=1f1f7-1f1f4;russia=1f1f7-1f1fa",
    "rwanda=1f1f7-1f1fc;réunion=1f1f7-1f1ea;soon_arrow=1f51c;sos_button=1f198;sagittarius=2650",
    "samoa=1f1fc-1f1f8;san_marino=1f1f8-1f1f2;saudi_arabia=1f1f8-1f1e6;scorpio=264f",
    "scotland=1f3f4-e0067-e0062-e0073-e0063-e0074-e007f;senegal=1f1f8-1f1f3;serbia=1f1f7-1f1f8",
    "seychelles=1f1f8-1f1e8;sierra_leone=1f1f8-1f1f1;singapore=1f1f8-1f1ec",
    "sint_maarten=1f1f8-1f1fd;slovakia=1f1f8-1f1f0;slovenia=1f1f8-1f1ee",
    "solomon_islands=1f1f8-1f1e7;somalia=1f1f8-1f1f4;south_africa=1f1ff-1f1e6",
    "south_georgia_&_south_sandwich_islands=1f1ec-1f1f8;south_korea=1f1f0-1f1f7",
    "south_sudan=1f1f8-1f1f8;spain=1f1ea-1f1f8;sri_lanka=1f1f1-1f1f0;st._barthélemy=1f1e7-1f1f1",
    "st._helena=1f1f8-1f1ed;st._kitts_&_nevis=1f1f0-1f1f3;st._lucia=1f1f1-1f1e8",
    "st._martin=1f1f2-1f1eb;st._pierre_&_miquelon=1f1f5-1f1f2;st._vincent_&_grenadines=1f1fb-1f1e8",
    "statue_of_liberty=1f5fd;sudan=1f1f8-1f1e9;suriname=1f1f8-1f1f7",
    "svalbard_&_jan_mayen=1f1f8-1f1ef;swaziland=1f1f8-1f1ff;sweden=1f1f8-1f1ea",
    "switzerland=1f1e8-1f1ed;syria=1f1f8-1f1fe;são_tomé_&_príncipe=1f1f8-1f1f9;t-rex=1f996",
    "top_arrow=1f51d;taiwan=1f1f9-1f1fc;tajikistan=1f1f9-1f1ef;tanzania=1f1f9-1f1ff;taurus=2649",
    "thailand=1f1f9-1f1ed;timor-leste=1f1f9-1f1f1;togo=1f1f9-1f1ec;tokelau=1f1f9-1f1f0",
    "tokyo_tower=1f5fc;tonga=1f1f9-1f1f4;trinidad_&_tobago=1f1f9-1f1f9",
    "tristan_da_cunha=1f1f9-1f1e6;tunisia=1f1f9-1f1f3;turkey=1f983;turkmenistan=1f1f9-1f1f2",
    "turks_&_caicos_islands=1f1f9-1f1e8;tuvalu=1f1f9-1f1fb;u.s._outlying_islands=1f1fa-1f1f2",
    "u.s._virgin_islands=1f1fb-1f1ee;up!_button=1f199;uganda=1f1fa-1f1ec;ukraine=1f1fa-1f1e6",
    "united_arab_emirates=1f1e6-1f1ea;united_kingdom=1f1ec-1f1e7;united_nations=1f1fa-1f1f3",
    "united_states=1f1fa-1f1f8;uruguay=1f1fa-1f1fe;uzbekistan=1f1fa-1f1ff;vs_button=1f19a",
    "vanuatu=1f1fb-1f1fa;vatican_city=1f1fb-1f1e6;venezuela=1f1fb-1f1ea;vietnam=1f1fb-1f1f3",
    "virgo=264d;wales=1f3f4-e0067-e0062-e0077-e006c-e0073-e007f;wallis_&_futuna=1f1fc-1f1eb",
    "western_sahara=1f1ea-1f1ed;yemen=1f1fe-1f1ea;zambia=1f1ff-1f1f2;zimbabwe=1f1ff-1f1fc",
    "abacus=1f9ee;adhesive_bandage=1fa79;admission_tickets=1f39f;aerial_tramway=1f6a1",
    "airplane=2708;airplane_arrival=1f6ec;airplane_departure=1f6eb;alarm_clock=23f0;alembic=2697",
    "alien=1f47d;alien_monster=1f47e;ambulance=1f691;american_football=1f3c8;amphora=1f3fa",
    "anchor=2693;anger_symbol=1f4a2;angry_face=1f620;angry_face_with_horns=1f47f",
    "anguished_face=1f627;ant=1f41c;antenna_bars=1f4f6;anxious_face_with_sweat=1f630",
    "articulated_lorry=1f69b;artist_palette=1f3a8;astonished_face=1f632;atom_symbol=269b",
    "auto_rickshaw=1f6fa;automobile=1f697;avocado=1f951;axe=1fa93;baby_bottle=1f37c",
    "baby_chick=1f424;baby_symbol=1f6bc;bacon=1f953;badger=1f9a1;badminton=1f3f8;bagel=1f96f",
    "baggage_claim=1f6c4;baguette_bread=1f956;balance_scale=2696;bald=1f9b2",
    "bald_man=1f468-200d-1f9b2;bald_woman=1f469-200d-1f9b2;ballet_shoes=1fa70;balloon=1f388",
    "ballot_box_with_ballot=1f5f3;ballot_box_with_check=2611;banana=1f34c;banjo=1fa95;bank=1f3e6",
    "bar_chart=1f4ca;barber_pole=1f488;baseball=26be;basket=1f9fa;basketball=1f3c0;bat=1f987",
    "bathtub=1f6c1;battery=1f50b;beach_with_umbrella=1f3d6;beaming_face_with_smiling_eyes=1f601",
    "bear_face=1f43b;beating_heart=1f493;bed=1f6cf;beer_mug=1f37a;bell=1f514;bell_with_slash=1f515",
    "bellhop_bell=1f6ce;bento_box=1f371;beverage_box=1f9c3;bicycle=1f6b2;bikini=1f459",
    "billed_cap=1f9e2;biohazard=2623;bird=1f426;birthday_cake=1f382;black_circle=26ab",
    "black_flag=1f3f4;black_heart=1f5a4;black_large_square=2b1b;black_medium-small_square=25fe",
    "black_medium_square=25fc;black_nib=2712;black_small_square=25aa;black_square_button=1f532",
    "blossom=1f33c;blowfish=1f421;blue_book=1f4d8;blue_circle=1f535;blue_heart=1f499",
    "blue_square=1f7e6;boar=1f417;bomb=1f4a3;bone=1f9b4;bookmark=1f516;bookmark_tabs=1f4d1",
    "books=1f4da;bottle_with_popping_cork=1f37e;bouquet=1f490;bow_and_arrow=1f3f9",
    "bowl_with_spoon=1f963;bowling=1f3b3;boxing_glove=1f94a;brain=1f9e0;bread=1f35e;brick=1f9f1",
    "bridge_at_night=1f309;briefcase=1f4bc;briefs=1fa72;bright_button=1f506;broccoli=1f966",
    "broken_heart=1f494;broom=1f9f9;brown_circle=1f7e4;brown_heart=1f90e;brown_square=1f7eb",
    "bug=1f41b;building_construction=1f3d7;bullet_train=1f685;burrito=1f32f;bus=1f68c",
    "bus_stop=1f68f;bust_in_silhouette=1f464;busts_in_silhouette=1f465;butter=1f9c8",
    "butterfly=1f98b;cactus=1f335;calendar=1f4c6;camel=1f42b;camera=1f4f7;camera_with_flash=1f4f8",
    "camping=1f3d5;candle=1f56f;candy=1f36c;canned_food=1f96b;canoe=1f6f6;card_file_box=1f5c3",
    "card_index=1f4c7;card_index_dividers=1f5c2;carousel_horse=1f3a0;carp_streamer=1f38f",
    "carrot=1f955;castle=1f3f0;cat=1f431;cat_face=1f431;cat_face_with_tears_of_joy=1f639",
    "cat_face_with_wry_smile=1f63c;chains=26d3;chair=1fa91;chart_decreasing=1f4c9",
    "chart_increasing=1f4c8;chart_increasing_with_yen=1f4b9;cheese_wedge=1f9c0",
    "chequered_flag=1f3c1;cherries=1f352;cherry_blossom=1f338;chess_pawn=265f;chestnut=1f330",
    "chicken=1f414;children_crossing=1f6b8;chipmunk=1f43f;chocolate_bar=1f36b;chopsticks=1f962",
    "church=26ea;cigarette=1f6ac;cinema=1f3a6;circled_m=24c2;circus_tent=1f3aa;cityscape=1f3d9",
    "cityscape_at_dusk=1f306;clamp=1f5dc;clapper_board=1f3ac;classical_building=1f3db",
    "clinking_beer_mugs=1f37b;clinking_glasses=1f942;clipboard=1f4cb",
    "clockwise_vertical_arrows=1f503;closed_book=1f4d5;closed_mailbox_with_lowered_flag=1f4ea",
    "closed_mailbox_with_raised_flag=1f4eb;closed_umbrella=1f302;cloud=2601",
    "cloud_with_lightning=1f329;cloud_with_lightning_and_rain=26c8;cloud_with_rain=1f327",
    "cloud_with_snow=1f328;clown_face=1f921;club_suit=2663;clutch_bag=1f45d;coat=1f9e5",
    "cocktail_glass=1f378;coconut=1f965;coffin=26b0;cold_face=1f976;collision=1f4a5;comet=2604",
    "compass=1f9ed;computer_disk=1f4bd;computer_mouse=1f5b1;confetti_ball=1f38a",
    "confounded_face=1f616;confused_face=1f615;construction=1f6a7;control_knobs=1f39b",
    "convenience_store=1f3ea;cooked_rice=1f35a;cookie=1f36a;cooking=1f373;copyright=a9",
    "couch_and_lamp=1f6cb;counterclockwise_arrows_button=1f504;couple_with_heart=1f491",
    "couple_with_heart_man_man=1f468-200d-2764-fe0f-200d-1f468",
    "couple_with_heart_woman_man=1f469-200d-2764-fe0f-200d-1f468",
    "couple_with_heart_woman_woman=1f469-200d-2764-fe0f-200d-1f469;cow=1f42e;cow_face=1f42e",
    "cowboy_hat_face=1f920;crab=1f980;crayon=1f58d;credit_card=1f4b3;crescent_moon=1f319",
    "cricket=1f997;cricket_game=1f3cf;crocodile=1f40a;croissant=1f950;cross_mark=274c",
    "cross_mark_button=274e;crossed_flags=1f38c;crossed_swords=2694;crown=1f451",
    "crying_cat_face=1f63f;crying_face=1f622;crystal_ball=1f52e;cucumber=1f952;cupcake=1f9c1",
    "cup_with_straw=1f964;curling_stone=1f94c;curly_hair=1f9b1;curly-haired_man=1f468-200d-1f9b1",
    "curly-haired_woman=1f469-200d-1f9b1;curly_loop=27b0;currency_exchange=1f4b1;curry_rice=1f35b",
    "custard=1f36e;customs=1f6c3;cut_of_meat=1f969;cyclone=1f300;dagger=1f5e1;dango=1f361",
    "dashing_away=1f4a8;deaf_person=1f9cf;deciduous_tree=1f333;deer=1f98c;delivery_truck=1f69a",
    "department_store=1f3ec;derelict_house=1f3da;desert=1f3dc;desert_island=1f3dd",
    "desktop_computer=1f5a5;diamond_suit=2666;diamond_with_a_dot=1f4a0;dim_button=1f505",
    "direct_hit=1f3af;disappointed_face=1f61e;diving_mask=1f93f;diya_lamp=1fa94;dizzy=1f4ab",
    "dizzy_face=1f635;dna=1f9ec;dog=1f436;dog_face=1f436;dollar_banknote=1f4b5;dolphin=1f42c",
    "door=1f6aa;dotted_six-pointed_star=1f52f;double_curly_loop=27bf;double_exclamation_mark=203c",
    "doughnut=1f369;dove=1f54a;down-left_arrow=2199;down-right_arrow=2198;down_arrow=2b07",
    "downcast_face_with_sweat=1f613;downwards_button=1f53d;dragon=1f409;dragon_face=1f432",
    "dress=1f457;drooling_face=1f924;drop_of_blood=1fa78;droplet=1f4a7;drum=1f941;duck=1f986",
    "dumpling=1f95f;dvd=1f4c0;e-mail=1f4e7;eagle=1f985;ear_of_corn=1f33d",
    "ear_with_hearing_aid=1f9bb;egg=1f373;eggplant=1f346;eight-pointed_star=2734",
    "eight-spoked_asterisk=2733;eight-thirty=1f563;eight_o’clock=1f557;eject_button=23cf",
    "electric_plug=1f50c;elephant=1f418;eleven-thirty=1f566;eleven_o’clock=1f55a;envelope=2709",
    "envelope_with_arrow=1f4e9;euro_banknote=1f4b6;evergreen_tree=1f332;ewe=1f411",
    "exclamation_mark=2757;exclamation_question_mark=2049;exploding_head=1f92f",
    "expressionless_face=1f611;eye=1f441;eye_in_speech_bubble=1f441-fe0f-200d-1f5e8-fe0f",
    "eyes=1f440;face_blowing_a_kiss=1f618;face_savoring_food=1f60b;face_screaming_in_fear=1f631",
    "face_vomiting=1f92e;face_with_hand_over_mouth=1f92d;face_with_head-bandage=1f915",
    "face_with_medical_mask=1f637;face_with_monocle=1f9d0;face_with_open_mouth=1f62e",
    "face_with_raised_eyebrow=1f928;face_with_rolling_eyes=1f644;face_with_steam_from_nose=1f624",
    "face_with_symbols_on_mouth=1f92c;face_with_tears_of_joy=1f602;face_with_thermometer=1f912",
    "face_with_tongue=1f61b;face_without_mouth=1f636;factory=1f3ed;falafel=1f9c6;fallen_leaf=1f342",
    "family=1f46a;family_man_boy=1f468-200d-1f466;family_man_boy_boy=1f468-200d-1f466-200d-1f466",
    "family_man_girl=1f468-200d-1f467;family_man_girl_boy=1f468-200d-1f467-200d-1f466",
    "family_man_girl_girl=1f468-200d-1f467-200d-1f467",
    "family_man_man_boy=1f468-200d-1f468-200d-1f466",
    "family_man_man_boy_boy=1f468-200d-1f468-200d-1f466-200d-1f466",
    "family_man_man_girl=1f468-200d-1f468-200d-1f467",
    "family_man_man_girl_boy=1f468-200d-1f468-200d-1f467-200d-1f466",
    "family_man_man_girl_girl=1f468-200d-1f468-200d-1f467-200d-1f467",
    "family_man_woman_boy=1f468-200d-1f469-200d-1f466",
    "family_man_woman_boy_boy=1f468-200d-1f469-200d-1f466-200d-1f466",
    "family_man_woman_girl=1f468-200d-1f469-200d-1f467",
    "family_man_woman_girl_boy=1f468-200d-1f469-200d-1f467-200d-1f466",
    "family_man_woman_girl_girl=1f468-200d-1f469-200d-1f467-200d-1f467",
    "family_woman_boy=1f469-200d-1f466;family_woman_boy_boy=1f469-200d-1f466-200d-1f466",
    "family_woman_girl=1f469-200d-1f467;family_woman_girl_boy=1f469-200d-1f467-200d-1f466",
    "family_woman_girl_girl=1f469-200d-1f467-200d-1f467",
    "family_woman_woman_boy=1f469-200d-1f469-200d-1f466",
    "family_woman_woman_boy_boy=1f469-200d-1f469-200d-1f466-200d-1f466",
    "family_woman_woman_girl=1f469-200d-1f469-200d-1f467",
    "family_woman_woman_girl_boy=1f469-200d-1f469-200d-1f467-200d-1f466",
    "family_woman_woman_girl_girl=1f469-200d-1f469-200d-1f467-200d-1f467;fast-forward_button=23e9",
    "fast_down_button=23ec;fast_reverse_button=23ea;fast_up_button=23eb;fax_machine=1f4e0",
    "fearful_face=1f628;female_sign=2640;ferris_wheel=1f3a1;ferry=26f4;field_hockey=1f3d1",
    "file_cabinet=1f5c4;file_folder=1f4c1;film_frames=1f39e;film_projector=1f4fd;fire=1f525",
    "fire_extinguisher=1f9ef;firecracker=1f9e8;fire_engine=1f692;fireworks=1f386",
    "first_quarter_moon=1f313;first_quarter_moon_face=1f31b;fish=1f41f;fish_cake_with_swirl=1f365",
    "fishing_pole=1f3a3;five-thirty=1f560;five_o’clock=1f554;flag_in_hole=26f3;flamingo=1f9a9",
    "flashlight=1f526;flat_shoe=1f97f;fleur-de-lis=269c;floppy_disk=1f4be",
    "flower_playing_cards=1f3b4;flushed_face=1f633;flying_disc=1f94f;flying_saucer=1f6f8;fog=1f32b",
    "foggy=1f301;foot=1f9b6;footprints=1f463;fork_and_knife=1f374;fork_and_knife_with_plate=1f37d",
    "fortune_cookie=1f960;fountain=26f2;fountain_pen=1f58b;four-thirty=1f55f",
    "four_leaf_clover=1f340;four_o’clock=1f553;fox_face=1f98a;framed_picture=1f5bc",
    "french_fries=1f35f;fried_shrimp=1f364;frog_face=1f438;front-facing_baby_chick=1f425",
    "frowning_face=2639;frowning_face_with_open_mouth=1f626;fuel_pump=26fd;full_moon=1f315",
    "full_moon_face=1f31d;funeral_urn=26b1;game_die=1f3b2;garlic=1f9c4;gear=2699;gem_stone=1f48e",
    "genie=1f9de;ghost=1f47b;giraffe=1f992;glass_of_milk=1f95b;glasses=1f453",
    "globe_showing_americas=1f30e;globe_showing_asia-australia=1f30f",
    "globe_showing_europe-africa=1f30d;globe_with_meridians=1f310;gloves=1f9e4;glowing_star=1f31f",
    "goal_net=1f945;goat=1f410;goblin=1f47a;goggles=1f97d;gorilla=1f98d;graduation_cap=1f393",
    "grapes=1f347;green_apple=1f34f;green_book=1f4d7;green_circle=1f7e2;green_heart=1f49a",
    "green_salad=1f957;green_square=1f7e9;grimacing_face=1f62c;grinning_cat_face=1f63a",
    "grinning_cat_face_with_smiling_eyes=1f638;grinning_face=1f600",
    "grinning_face_with_big_eyes=1f603;grinning_face_with_smiling_eyes=1f604",
    "grinning_face_with_sweat=1f605;grinning_squinting_face=1f606;growing_heart=1f497",
    "guide_dog=1f9ae;guitar=1f3b8;hamburger=1f354;hammer=1f528;hammer_and_pick=2692",
    "hammer_and_wrench=1f6e0;hamster_face=1f439;handbag=1f45c;handshake=1f91d;hatching_chick=1f423",
    "headphone=1f3a7;hear-no-evil_monkey=1f649;heart_decoration=1f49f;heart_suit=2665",
    "heart_with_arrow=1f498;heart_with_ribbon=1f49d;heavy_check_mark=2714;heavy_division_sign=2797",
    "heavy_dollar_sign=1f4b2;heavy_heart_exclamation=2763;heavy_large_circle=2b55",
    "heavy_minus_sign=2796;heavy_multiplication_x=2716;heavy_plus_sign=2795;hedgehog=1f994",
    "helicopter=1f681;herb=1f33f;hibiscus=1f33a;high-heeled_shoe=1f460;high-speed_train=1f684",
    "high_voltage=26a1;hiking_boot=1f97e;hindu_temple=1f6d5;hippopotamus=1f99b;hole=1f573",
    "honey_pot=1f36f;honeybee=1f41d;horizontal_traffic_light=1f6a5;horse=1f434;horse_face=1f434",
    "hospital=1f3e5;hot_beverage=2615;hot_dog=1f32d;hot_face=1f975;hot_pepper=1f336",
    "hot_springs=2668;hotel=1f3e8;hourglass_done=231b;hourglass_not_done=23f3;house=1f3e0",
    "house_with_garden=1f3e1;houses=1f3d8;hugging_face=1f917;hundred_points=1f4af",
    "hushed_face=1f62f;ice=1f9ca;ice_cream=1f368;ice_hockey=1f3d2;ice_skate=26f8;inbox_tray=1f4e5",
    "incoming_envelope=1f4e8;infinity=267e;information=2139;input_latin_letters=1f524",
    "input_latin_lowercase=1f521;input_latin_uppercase=1f520;input_numbers=1f522",
    "input_symbols=1f523;jack-o-lantern=1f383;jeans=1f456;jigsaw=1f9e9;joker=1f0cf;joystick=1f579",
    "kaaba=1f54b;kangaroo=1f998;key=1f511;keyboard=2328;keycap_#=23-fe0f-20e3",
    "keycap_*=2a-fe0f-20e3;keycap_0=30-fe0f-20e3;keycap_1=31-fe0f-20e3;keycap_10=1f51f",
    "keycap_2=32-fe0f-20e3;keycap_3=33-fe0f-20e3;keycap_4=34-fe0f-20e3;keycap_5=35-fe0f-20e3",
    "keycap_6=36-fe0f-20e3;keycap_7=37-fe0f-20e3;keycap_8=38-fe0f-20e3;keycap_9=39-fe0f-20e3",
    "kick_scooter=1f6f4;kimono=1f458;kiss=1f48b",
    "kiss_man_man=1f468-200d-2764-fe0f-200d-1f48b-200d-1f468;kiss_mark=1f48b",
    "kiss_woman_man=1f469-200d-2764-fe0f-200d-1f48b-200d-1f468",
    "kiss_woman_woman=1f469-200d-2764-fe0f-200d-1f48b-200d-1f469;kissing_cat_face=1f63d",
    "kissing_face=1f617;kissing_face_with_closed_eyes=1f61a;kissing_face_with_smiling_eyes=1f619",
    "kitchen_knife=1f52a;kite=1fa81;kiwi_fruit=1f95d;koala=1f428;lab_coat=1f97c;label=1f3f7",
    "lacrosse=1f94d;lady_beetle=1f41e;laptop_computer=1f4bb;large_blue_diamond=1f537",
    "large_orange_diamond=1f536;last_quarter_moon=1f317;last_quarter_moon_face=1f31c",
    "last_track_button=23ee;latin_cross=271d;leaf_fluttering_in_wind=1f343;leafy_green=1f96c",
    "ledger=1f4d2;left-right_arrow=2194;left_arrow=2b05;left_arrow_curving_right=21aa",
    "left_luggage=1f6c5;left_speech_bubble=1f5e8;leg=1f9b5;lemon=1f34b;leopard=1f406",
    "level_slider=1f39a;light_bulb=1f4a1;light_rail=1f688;link=1f517;linked_paperclips=1f587",
    "lion_face=1f981;lipstick=1f484;litter_in_bin_sign=1f6ae;lizard=1f98e;llama=1f999",
    "lobster=1f99e;locked=1f512;locked_with_key=1f510;locked_with_pen=1f50f;locomotive=1f682",
    "lollipop=1f36d;lotion_bottle=1f9f4;loudly_crying_face=1f62d;loudspeaker=1f4e2",
    "love_hotel=1f3e9;love_letter=1f48c;luggage=1f9f3;lying_face=1f925;magnet=1f9f2",
    "magnifying_glass_tilted_left=1f50d;magnifying_glass_tilted_right=1f50e",
    "mahjong_red_dragon=1f004;male_sign=2642;man_and_woman_holding_hands=1f46b",
    "man_genie=1f9de-200d-2642-fe0f;man_in_manual_wheelchair=1f468-200d-1f9bd",
    "man_in_motorized_wheelchair=1f468-200d-1f9bc;man_with_probing_cane=1f468-200d-1f9af",
    "man_zombie=1f9df-200d-2642-fe0f;mango=1f96d;mantelpiece_clock=1f570;manual_wheelchair=1f9bd",
    "man’s_shoe=1f45e;map_of_japan=1f5fe;maple_leaf=1f341;martial_arts_uniform=1f94b;mate=1f9c9",
    "meat_on_bone=1f356;mechanical_arm=1f9be;mechanical_leg=1f9bf;medical_symbol=2695",
    "megaphone=1f4e3;melon=1f348;memo=1f4dd;men_with_bunny_ears=1f46f-200d-2642-fe0f",
    "men_wrestling=1f93c-200d-2642-fe0f;menorah=1f54e;men’s_room=1f6b9;metro=1f687;microbe=1f9a0",
    "microphone=1f3a4;microscope=1f52c;military_medal=1f396;milky_way=1f30c;minibus=1f690",
    "moai=1f5ff;mobile_phone=1f4f1;mobile_phone_off=1f4f4;mobile_phone_with_arrow=1f4f2",
    "money-mouth_face=1f911;money_bag=1f4b0;money_with_wings=1f4b8;monkey=1f412;monkey_face=1f435",
    "monorail=1f69d;moon_cake=1f96e;moon_viewing_ceremony=1f391;mosque=1f54c;mosquito=1f99f",
    "motor_boat=1f6e5;motor_scooter=1f6f5;motorcycle=1f3cd;motorized_wheelchair=1f9bc",
    "motorway=1f6e3;mount_fuji=1f5fb;mountain=26f0;mountain_cableway=1f6a0;mountain_railway=1f69e",
    "mouse=1f42d;mouse_face=1f42d;mouth=1f444;movie_camera=1f3a5;mushroom=1f344",
    "musical_keyboard=1f3b9;musical_note=1f3b5;musical_notes=1f3b6;musical_score=1f3bc",
    "muted_speaker=1f507;name_badge=1f4db;national_park=1f3de;nauseated_face=1f922",
    "nazar_amulet=1f9ff;necktie=1f454;nerd_face=1f913;neutral_face=1f610;new_moon=1f311",
    "new_moon_face=1f31a;newspaper=1f4f0;next_track_button=23ed;night_with_stars=1f303",
    "nine-thirty=1f564;nine_o’clock=1f558;no_bicycles=1f6b3;no_entry=26d4;no_littering=1f6af",
    "no_mobile_phones=1f4f5;no_one_under_eighteen=1f51e;no_pedestrians=1f6b7;no_smoking=1f6ad",
    "non-potable_water=1f6b1;notebook=1f4d3;notebook_with_decorative_cover=1f4d4",
    "nut_and_bolt=1f529;octopus=1f419;oden=1f362;office_building=1f3e2;ogre=1f479;oil_drum=1f6e2",
    "old_key=1f5dd;om=1f549;oncoming_automobile=1f698;oncoming_bus=1f68d;oncoming_police_car=1f694",
    "oncoming_taxi=1f696;one-piece_swimsuit=1fa71;one-thirty=1f55c;one_o’clock=1f550;onion=1f9c5",
    "open_book=1f4d6;open_file_folder=1f4c2;open_mailbox_with_lowered_flag=1f4ed",
    "open_mailbox_with_raised_flag=1f4ec;optical_disk=1f4bf;orange_book=1f4d9;orange_circle=1f7e0",
    "orange_heart=1f9e1;orange_square=1f7e7;orangutan=1f9a7;orthodox_cross=2626;otter=1f9a6",
    "outbox_tray=1f4e4;owl=1f989;ox=1f402;oyster=1f9aa;package=1f4e6;page_facing_up=1f4c4",
    "page_with_curl=1f4c3;pager=1f4df;paintbrush=1f58c;palm_tree=1f334;pancakes=1f95e",
    "panda_face=1f43c;paperclip=1f4ce;parrot=1f99c;part_alternation_mark=303d;party_popper=1f389",
    "partying_face=1f973;passenger_ship=1f6f3;passport_control=1f6c2;pause_button=23f8",
    "paw_prints=1f43e;peace_symbol=262e;peach=1f351;peacock=1f99a;peanuts=1f95c;pear=1f350",
    "pen=1f58a;pencil=1f4dd;penguin=1f427;pensive_face=1f614",
    "people_holding_hands=1f9d1-200d-1f91d-200d-1f9d1;people_with_bunny_ears=1f46f",
    "people_wrestling=1f93c;performing_arts=1f3ad;persevering_face=1f623;person_fencing=1f93a",
    "person_kneeling=1f9ce;person_standing=1f9cd;petri_dish=1f9eb;pick=26cf;pie=1f967;pig=1f437",
    "pig_face=1f437;pig_nose=1f43d;pile_of_poo=1f4a9;pill=1f48a;pinching_hand=1f90f",
    "pine_decoration=1f38d;pineapple=1f34d;ping_pong=1f3d3;pirate_flag=1f3f4-200d-2620-fe0f",
    "pistol=1f52b;pizza=1f355;place_of_worship=1f6d0;play_button=25b6;play_or_pause_button=23ef",
    "pleading_face=1f97a;police_car=1f693;police_car_light=1f6a8;poodle=1f429;pool_8_ball=1f3b1",
    "popcorn=1f37f;post_office=1f3e3;postal_horn=1f4ef;postbox=1f4ee;pot_of_food=1f372",
    "potable_water=1f6b0;potato=1f954;poultry_leg=1f357;pound_banknote=1f4b7",
    "pouting_cat_face=1f63e;pouting_face=1f621;prayer_beads=1f4ff;pretzel=1f968;probing_cane=1f9af",
    "printer=1f5a8;prohibited=1f6ab;purple_circle=1f7e3;purple_heart=1f49c;purple_square=1f7ea",
    "purse=1f45b;pushpin=1f4cc;question_mark=2753;rabbit=1f430;rabbit_face=1f430;raccoon=1f99d",
    "racing_car=1f3ce;radio=1f4fb;radio_button=1f518;radioactive=2622;railway_car=1f683",
    "railway_track=1f6e4;rainbow=1f308;rainbow_flag=1f3f3-fe0f-200d-1f308;ram=1f40f;rat=1f400",
    "razor=1fa92;ringed_planet=1fa90;receipt=1f9fe;record_button=23fa;recycling_symbol=267b",
    "red_apple=1f34e;red_circle=1f534;red_envelope=1f9e7;red_hair=1f9b0",
    "red-haired_man=1f468-200d-1f9b0;red-haired_woman=1f469-200d-1f9b0;red_heart=2764",
    "red_paper_lantern=1f3ee;red_square=1f7e5;red_triangle_pointed_down=1f53b",
    "red_triangle_pointed_up=1f53a;registered=ae;relieved_face=1f60c;reminder_ribbon=1f397",
    "repeat_button=1f501;repeat_single_button=1f502;rescue_worker’s_helmet=26d1;restroom=1f6bb",
    "reverse_button=25c0;revolving_hearts=1f49e;rhinoceros=1f98f;ribbon=1f380;rice_ball=1f359",
    "rice_cracker=1f358;right_anger_bubble=1f5ef;right_arrow=27a1;right_arrow_curving_down=2935",
    "right_arrow_curving_left=21a9;right_arrow_curving_up=2934;ring=1f48d",
    "roasted_sweet_potato=1f360;robot_face=1f916;rocket=1f680;roll_of_paper=1f9fb",
    "rolled-up_newspaper=1f5de;roller_coaster=1f3a2;rolling_on_the_floor_laughing=1f923",
    "rooster=1f413;rose=1f339;rosette=1f3f5;round_pushpin=1f4cd;rugby_football=1f3c9",
    "running_shirt=1f3bd;running_shoe=1f45f;sad_but_relieved_face=1f625;safety_pin=1f9f7",
    "safety_vest=1f9ba;salt=1f9c2;sailboat=26f5;sake=1f376;sandwich=1f96a;sari=1f97b",
    "satellite=1f4e1;satellite_antenna=1f4e1;sauropod=1f995;saxophone=1f3b7;scarf=1f9e3",
    "school=1f3eb;school_backpack=1f392;scissors=2702;scorpion=1f982;scroll=1f4dc;seat=1f4ba",
    "see-no-evil_monkey=1f648;seedling=1f331;service_dog=1f415-200d-1f9ba;seven-thirty=1f562",
    "seven_o’clock=1f556;shallow_pan_of_food=1f958;shamrock=2618;shark=1f988;shaved_ice=1f367",
    "sheaf_of_rice=1f33e;shield=1f6e1;shinto_shrine=26e9;ship=1f6a2;shooting_star=1f320",
    "shopping_bags=1f6cd;shopping_cart=1f6d2;shortcake=1f370;shorts=1fa73;shower=1f6bf",
    "shrimp=1f990;shuffle_tracks_button=1f500;shushing_face=1f92b;six-thirty=1f561",
    "six_o’clock=1f555;skateboard=1f6f9;skier=26f7;skis=1f3bf;skull=1f480",
    "skull_and_crossbones=2620;skunk=1f9a8;sled=1f6f7;sleeping_face=1f634;sleepy_face=1f62a",
    "slightly_frowning_face=1f641;slightly_smiling_face=1f642;slot_machine=1f3b0;sloth=1f9a5",
    "small_airplane=1f6e9;small_blue_diamond=1f539;small_orange_diamond=1f538",
    "smiling_cat_face_with_heart-eyes=1f63b;smiling_face=263a;smiling_face_with_halo=1f607",
    "smiling_face_with_3_hearts=1f970;smiling_face_with_heart-eyes=1f60d",
    "smiling_face_with_horns=1f608;smiling_face_with_smiling_eyes=1f60a",
    "smiling_face_with_sunglasses=1f60e;smirking_face=1f60f;snail=1f40c;snake=1f40d",
    "sneezing_face=1f927;snow-capped_mountain=1f3d4;snowflake=2744;snowman=2603",
    "snowman_without_snow=26c4;soap=1f9fc;soccer_ball=26bd;socks=1f9e6;softball=1f94e",
    "soft_ice_cream=1f366;spade_suit=2660;spaghetti=1f35d;sparkle=2747;sparkler=1f387",
    "sparkles=2728;sparkling_heart=1f496;speak-no-evil_monkey=1f64a;speaker_high_volume=1f50a",
    "speaker_low_volume=1f508;speaker_medium_volume=1f509;speaking_head=1f5e3;speech_balloon=1f4ac",
    "speedboat=1f6a4;spider=1f577;spider_web=1f578;spiral_calendar=1f5d3;spiral_notepad=1f5d2",
    "spiral_shell=1f41a;spoon=1f944;sponge=1f9fd;sport_utility_vehicle=1f699;sports_medal=1f3c5",
    "spouting_whale=1f433;squid=1f991;squinting_face_with_tongue=1f61d;stadium=1f3df",
    "star-struck=1f929;star_and_crescent=262a;star_of_david=2721;station=1f689;steaming_bowl=1f35c",
    "stethoscope=1fa7a;stop_button=23f9;stop_sign=1f6d1;stopwatch=23f1;straight_ruler=1f4cf",
    "strawberry=1f353;studio_microphone=1f399;stuffed_flatbread=1f959;sun=2600",
    "sun_behind_cloud=26c5;sun_behind_large_cloud=1f325;sun_behind_rain_cloud=1f326",
    "sun_behind_small_cloud=1f324;sun_with_face=1f31e;sunflower=1f33b;sunglasses=1f60e",
    "sunrise=1f305;sunrise_over_mountains=1f304;sunset=1f307;superhero=1f9b8;supervillain=1f9b9",
    "sushi=1f363;suspension_railway=1f69f;swan=1f9a2;sweat_droplets=1f4a6;synagogue=1f54d",
    "syringe=1f489;t-shirt=1f455;taco=1f32e;takeout_box=1f961;tanabata_tree=1f38b;tangerine=1f34a",
    "taxi=1f695;teacup_without_handle=1f375;tear-off_calendar=1f4c6;teddy_bear=1f9f8",
    "telephone=260e;telephone_receiver=1f4de;telescope=1f52d;television=1f4fa;ten-thirty=1f565",
    "ten_o’clock=1f559;tennis=1f3be;tent=26fa;test_tube=1f9ea;thermometer=1f321",
    "thinking_face=1f914;thought_balloon=1f4ad;thread=1f9f5;three-thirty=1f55e;three_o’clock=1f552",
    "ticket=1f3ab;tiger=1f42f;tiger_face=1f42f;timer_clock=23f2;tired_face=1f62b;toolbox=1f9f0",
    "toilet=1f6bd;tomato=1f345;tongue=1f445;tooth=1f9b7;top_hat=1f3a9;tornado=1f32a",
    "trackball=1f5b2;tractor=1f69c;trade_mark=2122;train=1f68b;tram=1f68a;tram_car=1f68b",
    "triangular_flag=1f6a9;triangular_ruler=1f4d0;trident_emblem=1f531;trolleybus=1f68e",
    "trophy=1f3c6;tropical_drink=1f379;tropical_fish=1f420;trumpet=1f3ba;tulip=1f337",
    "tumbler_glass=1f943;turtle=1f422;twelve-thirty=1f567;twelve_o’clock=1f55b",
    "two-hump_camel=1f42b;two-thirty=1f55d;two_hearts=1f495;two_men_holding_hands=1f46c",
    "two_o’clock=1f551;two_women_holding_hands=1f46d;umbrella=2602;umbrella_on_ground=26f1",
    "umbrella_with_rain_drops=2614;unamused_face=1f612;unicorn_face=1f984;unlocked=1f513",
    "up-down_arrow=2195;up-left_arrow=2196;up-right_arrow=2197;up_arrow=2b06",
    "upside-down_face=1f643;upwards_button=1f53c;vertical_traffic_light=1f6a6;vibration_mode=1f4f3",
    "video_camera=1f4f9;video_game=1f3ae;videocassette=1f4fc;violin=1f3bb;volcano=1f30b",
    "volleyball=1f3d0;waffle=1f9c7;waning_crescent_moon=1f318;waning_gibbous_moon=1f316",
    "warning=26a0;wastebasket=1f5d1;watch=231a;water_buffalo=1f403;water_closet=1f6be",
    "water_wave=1f30a;watermelon=1f349;wavy_dash=3030;waxing_crescent_moon=1f312",
    "waxing_gibbous_moon=1f314;weary_cat_face=1f640;weary_face=1f629;wedding=1f492;whale=1f433",
    "wheel_of_dharma=2638;wheelchair_symbol=267f;white_circle=26aa;white_exclamation_mark=2755",
    "white_flag=1f3f3;white_flower=1f4ae;white_hair=1f9b3;white-haired_man=1f468-200d-1f9b3",
    "white-haired_woman=1f469-200d-1f9b3;white_heart=1f90d;white_heavy_check_mark=2705",
    "white_large_square=2b1c;white_medium-small_square=25fd;white_medium_square=25fb",
    "white_medium_star=2b50;white_question_mark=2754;white_small_square=25ab",
    "white_square_button=1f533;wilted_flower=1f940;wind_chime=1f390;wind_face=1f32c",
    "wine_glass=1f377;winking_face=1f609;winking_face_with_tongue=1f61c;wolf_face=1f43a",
    "woman_genie=1f9de-200d-2640-fe0f;woman_in_manual_wheelchair=1f469-200d-1f9bd",
    "woman_in_motorized_wheelchair=1f469-200d-1f9bc;woman_with_probing_cane=1f469-200d-1f9af",
    "woman_zombie=1f9df-200d-2640-fe0f;woman’s_boot=1f462;woman’s_clothes=1f45a;woman’s_hat=1f452",
    "woman’s_sandal=1f461;women_with_bunny_ears=1f46f-200d-2640-fe0f",
    "women_wrestling=1f93c-200d-2640-fe0f;women’s_room=1f6ba;woozy_face=1f974;world_map=1f5fa",
    "worried_face=1f61f;wrapped_gift=1f381;wrench=1f527;yarn=1f9f6;yawning_face=1f971",
    "yellow_circle=1f7e1;yellow_heart=1f49b;yellow_square=1f7e8;yen_banknote=1f4b4;yo-yo=1fa80",
    "yin_yang=262f;zany_face=1f92a;zebra=1f993;zipper-mouth_face=1f910;zombie=1f9df;zzz=1f4a4",
    "åland_islands=1f1e6-1f1fd;keycap_asterisk=2a-20e3;keycap_digit_eight=38-20e3",
    "keycap_digit_five=35-20e3;keycap_digit_four=34-20e3;keycap_digit_nine=39-20e3",
    "keycap_digit_one=31-20e3;keycap_digit_seven=37-20e3;keycap_digit_six=36-20e3",
    "keycap_digit_three=33-20e3;keycap_digit_two=32-20e3;keycap_digit_zero=30-20e3",
    "keycap_number_sign=23-20e3;light_skin_tone=1f3fb;medium_light_skin_tone=1f3fc",
    "medium_skin_tone=1f3fd;medium_dark_skin_tone=1f3fe;dark_skin_tone=1f3ff",
    "regional_indicator_symbol_letter_a=1f1e6;regional_indicator_symbol_letter_b=1f1e7",
    "regional_indicator_symbol_letter_c=1f1e8;regional_indicator_symbol_letter_d=1f1e9",
    "regional_indicator_symbol_letter_e=1f1ea;regional_indicator_symbol_letter_f=1f1eb",
    "regional_indicator_symbol_letter_g=1f1ec;regional_indicator_symbol_letter_h=1f1ed",
    "regional_indicator_symbol_letter_i=1f1ee;regional_indicator_symbol_letter_j=1f1ef",
    "regional_indicator_symbol_letter_k=1f1f0;regional_indicator_symbol_letter_l=1f1f1",
    "regional_indicator_symbol_letter_m=1f1f2;regional_indicator_symbol_letter_n=1f1f3",
    "regional_indicator_symbol_letter_o=1f1f4;regional_indicator_symbol_letter_p=1f1f5",
    "regional_indicator_symbol_letter_q=1f1f6;regional_indicator_symbol_letter_r=1f1f7",
    "regional_indicator_symbol_letter_s=1f1f8;regional_indicator_symbol_letter_t=1f1f9",
    "regional_indicator_symbol_letter_u=1f1fa;regional_indicator_symbol_letter_v=1f1fb",
    "regional_indicator_symbol_letter_w=1f1fc;regional_indicator_symbol_letter_x=1f1fd",
    "regional_indicator_symbol_letter_y=1f1fe;regional_indicator_symbol_letter_z=1f1ff",
    "airplane_arriving=1f6ec;space_invader=1f47e;football=1f3c8;anger=1f4a2;angry=1f620",
    "anguished=1f627;signal_strength=1f4f6;arrows_counterclockwise=1f504;arrow_heading_down=2935",
    "arrow_heading_up=2934;art=1f3a8;astonished=1f632;athletic_shoe=1f45f;atm=1f3e7;car=1f697",
    "red_car=1f697;angel=1f47c;back=1f519;badminton_racquet_and_shuttlecock=1f3f8;dollar=1f4b5",
    "euro=1f4b6;pound=1f4b7;yen=1f4b4;barber=1f488;bath=1f6c0;bear=1f43b;heartbeat=1f493",
    "beer=1f37a;no_bell=1f515;bento=1f371;bike=1f6b2;bicyclist=1f6b4;8ball=1f3b1",
    "biohazard_sign=2623;birthday=1f382;black_circle_for_record=23fa;clubs=2663;diamonds=2666",
    "arrow_double_down=23ec;hearts=2665;rewind=23ea",
    "black_left__pointing_double_triangle_with_vertical_bar=23ee;arrow_backward=25c0",
    "black_medium_small_square=25fe;question=2753;fast_forward=23e9",
    "black_right__pointing_double_triangle_with_vertical_bar=23ed;arrow_forward=25b6",
    "black_right__pointing_triangle_with_double_vertical_bar=23ef;arrow_right=27a1;spades=2660",
    "black_square_for_stop=23f9;sunny=2600;phone=260e;recycle=267b;arrow_double_up=23eb",
    "busstop=1f68f;date=1f4c5;flags=1f38f;cat2=1f408;joy_cat=1f639;smirk_cat=1f63c",
    "chart_with_downwards_trend=1f4c9;chart_with_upwards_trend=1f4c8;chart=1f4b9;mega=1f4e3",
    "checkered_flag=1f3c1;accept=1f251;ideograph_advantage=1f250;congratulations=3297;secret=3299",
    "m=24c2;city_sunset=1f306;clapper=1f3ac;clap=1f44f;beers=1f37b;clock830=1f563;clock8=1f557",
    "clock1130=1f566;clock11=1f55a;clock530=1f560;clock5=1f554;clock430=1f55f;clock4=1f553",
    "clock930=1f564;clock9=1f558;clock130=1f55c;clock1=1f550;clock730=1f562;clock7=1f556",
    "clock630=1f561;clock6=1f555;clock1030=1f565;clock10=1f559;clock330=1f55e;clock3=1f552",
    "clock1230=1f567;clock12=1f55b;clock230=1f55d;clock2=1f551;arrows_clockwise=1f503;repeat=1f501",
    "repeat_one=1f502;closed_lock_with_key=1f510;mailbox_closed=1f4ea;mailbox=1f4eb",
    "cloud_with_tornado=1f32a;cocktail=1f378;boom=1f4a5;compression=1f5dc;confounded=1f616",
    "confused=1f615;rice=1f35a;cow2=1f404;cricket_bat_and_ball=1f3cf;x=274c;cry=1f622;curry=1f35b",
    "dagger_knife=1f5e1;dancer=1f483;dark_sunglasses=1f576;dash=1f4a8;truck=1f69a",
    "derelict_house_building=1f3da;diamond_shape_with_a_dot_inside=1f4a0;dart=1f3af",
    "disappointed_relieved=1f625;disappointed=1f61e;do_not_litter=1f6af;dog2=1f415;flipper=1f42c",
    "loop=27bf;bangbang=203c;double_vertical_bar=23f8;dove_of_peace=1f54a",
    "small_red_triangle_down=1f53b;arrow_down_small=1f53d;arrow_down=2b07;dromedary_camel=1f42a",
    "e__mail=1f4e7;corn=1f33d;ear_of_rice=1f33e;earth_americas=1f30e;earth_asia=1f30f",
    "earth_africa=1f30d;eight_pointed_black_star=2734;eight_spoked_asterisk=2733;eject_symbol=23cf",
    "bulb=1f4a1;emoji_modifier_fitzpatrick_type__1__2=1f3fb",
    "emoji_modifier_fitzpatrick_type__3=1f3fc;emoji_modifier_fitzpatrick_type__4=1f3fd",
    "emoji_modifier_fitzpatrick_type__5=1f3fe;emoji_modifier_fitzpatrick_type__6=1f3ff;end=1f51a",
    "email=2709;european_castle=1f3f0;european_post_office=1f3e4;interrobang=2049",
    "expressionless=1f611;eyeglasses=1f453;massage=1f486;yum=1f60b;scream=1f631",
    "kissing_heart=1f618;sweat=1f613;face_with_head__bandage=1f915;triumph=1f624;mask=1f637",
    "no_good=1f645;ok_woman=1f646;open_mouth=1f62e;cold_sweat=1f630;stuck_out_tongue=1f61b",
    "stuck_out_tongue_closed_eyes=1f61d;stuck_out_tongue_winking_eye=1f61c;joy=1f602",
    "no_mouth=1f636;santa=1f385;fax=1f4e0;fearful=1f628;field_hockey_stick_and_ball=1f3d1",
    "first_quarter_moon_with_face=1f31b;fish_cake=1f365;fishing_pole_and_fish=1f3a3",
    "facepunch=1f44a;punch=1f44a;flag_for_afghanistan=1f1e6-1f1eb;flag_for_albania=1f1e6-1f1f1",
    "flag_for_algeria=1f1e9-1f1ff;flag_for_american_samoa=1f1e6-1f1f8;flag_for_andorra=1f1e6-1f1e9",
    "flag_for_angola=1f1e6-1f1f4;flag_for_anguilla=1f1e6-1f1ee;flag_for_antarctica=1f1e6-1f1f6",
    "flag_for_antigua_&_barbuda=1f1e6-1f1ec;flag_for_argentina=1f1e6-1f1f7",
    "flag_for_armenia=1f1e6-1f1f2;flag_for_aruba=1f1e6-1f1fc;flag_for_ascension_island=1f1e6-1f1e8",
    "flag_for_australia=1f1e6-1f1fa;flag_for_austria=1f1e6-1f1f9;flag_for_azerbaijan=1f1e6-1f1ff",
    "flag_for_bahamas=1f1e7-1f1f8;flag_for_bahrain=1f1e7-1f1ed;flag_for_bangladesh=1f1e7-1f1e9",
    "flag_for_barbados=1f1e7-1f1e7;flag_for_belarus=1f1e7-1f1fe;flag_for_belgium=1f1e7-1f1ea",
    "flag_for_belize=1f1e7-1f1ff;flag_for_benin=1f1e7-1f1ef;flag_for_bermuda=1f1e7-1f1f2",
    "flag_for_bhutan=1f1e7-1f1f9;flag_for_bolivia=1f1e7-1f1f4",
    "flag_for_bosnia_&_herzegovina=1f1e7-1f1e6;flag_for_botswana=1f1e7-1f1fc",
    "flag_for_bouvet_island=1f1e7-1f1fb;flag_for_brazil=1f1e7-1f1f7",
    "flag_for_british_indian_ocean_territory=1f1ee-1f1f4",
    "flag_for_british_virgin_islands=1f1fb-1f1ec;flag_for_brunei=1f1e7-1f1f3",
    "flag_for_bulgaria=1f1e7-1f1ec;flag_for_burkina_faso=1f1e7-1f1eb;flag_for_burundi=1f1e7-1f1ee",
    "flag_for_cambodia=1f1f0-1f1ed;flag_for_cameroon=1f1e8-1f1f2;flag_for_canada=1f1e8-1f1e6",
    "flag_for_canary_islands=1f1ee-1f1e8;flag_for_cape_verde=1f1e8-1f1fb",
    "flag_for_caribbean_netherlands=1f1e7-1f1f6;flag_for_cayman_islands=1f1f0-1f1fe",
    "flag_for_central_african_republic=1f1e8-1f1eb;flag_for_ceuta_&_melilla=1f1ea-1f1e6",
    "flag_for_chad=1f1f9-1f1e9;flag_for_chile=1f1e8-1f1f1;flag_for_china=1f1e8-1f1f3",
    "flag_for_christmas_island=1f1e8-1f1fd;flag_for_clipperton_island=1f1e8-1f1f5",
    "flag_for_cocos__islands=1f1e8-1f1e8;flag_for_colombia=1f1e8-1f1f4",
    "flag_for_comoros=1f1f0-1f1f2;flag_for_congo____brazzaville=1f1e8-1f1ec",
    "flag_for_congo____kinshasa=1f1e8-1f1e9;flag_for_cook_islands=1f1e8-1f1f0",
    "flag_for_costa_rica=1f1e8-1f1f7;flag_for_croatia=1f1ed-1f1f7;flag_for_cuba=1f1e8-1f1fa",
    "flag_for_curaçao=1f1e8-1f1fc;flag_for_cyprus=1f1e8-1f1fe;flag_for_czech_republic=1f1e8-1f1ff",
    "flag_for_côte_d’ivoire=1f1e8-1f1ee;flag_for_denmark=1f1e9-1f1f0",
    "flag_for_diego_garcia=1f1e9-1f1ec;flag_for_djibouti=1f1e9-1f1ef;flag_for_dominica=1f1e9-1f1f2",
    "flag_for_dominican_republic=1f1e9-1f1f4;flag_for_ecuador=1f1ea-1f1e8",
    "flag_for_egypt=1f1ea-1f1ec;flag_for_el_salvador=1f1f8-1f1fb",
    "flag_for_equatorial_guinea=1f1ec-1f1f6;flag_for_eritrea=1f1ea-1f1f7",
    "flag_for_estonia=1f1ea-1f1ea;flag_for_ethiopia=1f1ea-1f1f9",
    "flag_for_european_union=1f1ea-1f1fa;flag_for_falkland_islands=1f1eb-1f1f0",
    "flag_for_faroe_islands=1f1eb-1f1f4;flag_for_fiji=1f1eb-1f1ef;flag_for_finland=1f1eb-1f1ee",
    "flag_for_france=1f1eb-1f1f7;flag_for_french_guiana=1f1ec-1f1eb",
    "flag_for_french_polynesia=1f1f5-1f1eb;flag_for_french_southern_territories=1f1f9-1f1eb",
    "flag_for_gabon=1f1ec-1f1e6;flag_for_gambia=1f1ec-1f1f2;flag_for_georgia=1f1ec-1f1ea",
    "flag_for_germany=1f1e9-1f1ea;flag_for_ghana=1f1ec-1f1ed;flag_for_gibraltar=1f1ec-1f1ee",
    "flag_for_greece=1f1ec-1f1f7;flag_for_greenland=1f1ec-1f1f1;flag_for_grenada=1f1ec-1f1e9",
    "flag_for_guadeloupe=1f1ec-1f1f5;flag_for_guam=1f1ec-1f1fa;flag_for_guatemala=1f1ec-1f1f9",
    "flag_for_guernsey=1f1ec-1f1ec;flag_for_guinea=1f1ec-1f1f3;flag_for_guinea__bissau=1f1ec-1f1fc",
    "flag_for_guyana=1f1ec-1f1fe;flag_for_haiti=1f1ed-1f1f9",
    "flag_for_heard_&_mcdonald_islands=1f1ed-1f1f2;flag_for_honduras=1f1ed-1f1f3",
    "flag_for_hong_kong=1f1ed-1f1f0;flag_for_hungary=1f1ed-1f1fa;flag_for_iceland=1f1ee-1f1f8",
    "flag_for_india=1f1ee-1f1f3;flag_for_indonesia=1f1ee-1f1e9;flag_for_iran=1f1ee-1f1f7",
    "flag_for_iraq=1f1ee-1f1f6;flag_for_ireland=1f1ee-1f1ea;flag_for_isle_of_man=1f1ee-1f1f2",
    "flag_for_israel=1f1ee-1f1f1;flag_for_italy=1f1ee-1f1f9;flag_for_jamaica=1f1ef-1f1f2",
    "flag_for_japan=1f1ef-1f1f5;flag_for_jersey=1f1ef-1f1ea;flag_for_jordan=1f1ef-1f1f4",
    "flag_for_kazakhstan=1f1f0-1f1ff;flag_for_kenya=1f1f0-1f1ea;flag_for_kiribati=1f1f0-1f1ee",
    "flag_for_kosovo=1f1fd-1f1f0;flag_for_kuwait=1f1f0-1f1fc;flag_for_kyrgyzstan=1f1f0-1f1ec",
    "flag_for_laos=1f1f1-1f1e6;flag_for_latvia=1f1f1-1f1fb;flag_for_lebanon=1f1f1-1f1e7",
    "flag_for_lesotho=1f1f1-1f1f8;flag_for_liberia=1f1f1-1f1f7;flag_for_libya=1f1f1-1f1fe",
    "flag_for_liechtenstein=1f1f1-1f1ee;flag_for_lithuania=1f1f1-1f1f9",
    "flag_for_luxembourg=1f1f1-1f1fa;flag_for_macau=1f1f2-1f1f4;flag_for_macedonia=1f1f2-1f1f0",
    "flag_for_madagascar=1f1f2-1f1ec;flag_for_malawi=1f1f2-1f1fc;flag_for_malaysia=1f1f2-1f1fe",
    "flag_for_maldives=1f1f2-1f1fb;flag_for_mali=1f1f2-1f1f1;flag_for_malta=1f1f2-1f1f9",
    "flag_for_marshall_islands=1f1f2-1f1ed;flag_for_martinique=1f1f2-1f1f6",
    "flag_for_mauritania=1f1f2-1f1f7;flag_for_mauritius=1f1f2-1f1fa;flag_for_mayotte=1f1fe-1f1f9",
    "flag_for_mexico=1f1f2-1f1fd;flag_for_micronesia=1f1eb-1f1f2;flag_for_moldova=1f1f2-1f1e9",
    "flag_for_monaco=1f1f2-1f1e8;flag_for_mongolia=1f1f2-1f1f3;flag_for_montenegro=1f1f2-1f1ea",
    "flag_for_montserrat=1f1f2-1f1f8;flag_for_morocco=1f1f2-1f1e6;flag_for_mozambique=1f1f2-1f1ff",
    "flag_for_myanmar=1f1f2-1f1f2;flag_for_namibia=1f1f3-1f1e6;flag_for_nauru=1f1f3-1f1f7",
    "flag_for_nepal=1f1f3-1f1f5;flag_for_netherlands=1f1f3-1f1f1",
    "flag_for_new_caledonia=1f1f3-1f1e8;flag_for_new_zealand=1f1f3-1f1ff",
    "flag_for_nicaragua=1f1f3-1f1ee;flag_for_niger=1f1f3-1f1ea;flag_for_nigeria=1f1f3-1f1ec",
    "flag_for_niue=1f1f3-1f1fa;flag_for_norfolk_island=1f1f3-1f1eb",
    "flag_for_north_korea=1f1f0-1f1f5;flag_for_northern_mariana_islands=1f1f2-1f1f5",
    "flag_for_norway=1f1f3-1f1f4;flag_for_oman=1f1f4-1f1f2;flag_for_pakistan=1f1f5-1f1f0",
    "flag_for_palau=1f1f5-1f1fc;flag_for_palestinian_territories=1f1f5-1f1f8",
    "flag_for_panama=1f1f5-1f1e6;flag_for_papua_new_guinea=1f1f5-1f1ec",
    "flag_for_paraguay=1f1f5-1f1fe;flag_for_peru=1f1f5-1f1ea;flag_for_philippines=1f1f5-1f1ed",
    "flag_for_pitcairn_islands=1f1f5-1f1f3;flag_for_poland=1f1f5-1f1f1",
    "flag_for_portugal=1f1f5-1f1f9;flag_for_puerto_rico=1f1f5-1f1f7;flag_for_qatar=1f1f6-1f1e6",
    "flag_for_romania=1f1f7-1f1f4;flag_for_russia=1f1f7-1f1fa;flag_for_rwanda=1f1f7-1f1fc",
    "flag_for_réunion=1f1f7-1f1ea;flag_for_samoa=1f1fc-1f1f8;flag_for_san_marino=1f1f8-1f1f2",
    "flag_for_saudi_arabia=1f1f8-1f1e6;flag_for_senegal=1f1f8-1f1f3;flag_for_serbia=1f1f7-1f1f8",
    "flag_for_seychelles=1f1f8-1f1e8;flag_for_sierra_leone=1f1f8-1f1f1",
    "flag_for_singapore=1f1f8-1f1ec;flag_for_sint_maarten=1f1f8-1f1fd",
    "flag_for_slovakia=1f1f8-1f1f0;flag_for_slovenia=1f1f8-1f1ee",
    "flag_for_solomon_islands=1f1f8-1f1e7;flag_for_somalia=1f1f8-1f1f4",
    "flag_for_south_africa=1f1ff-1f1e6;flag_for_south_georgia_&_south_sandwich_islands=1f1ec-1f1f8",
    "flag_for_south_korea=1f1f0-1f1f7;flag_for_south_sudan=1f1f8-1f1f8;flag_for_spain=1f1ea-1f1f8",
    "flag_for_sri_lanka=1f1f1-1f1f0;flag_for_st._barthélemy=1f1e7-1f1f1",
    "flag_for_st._helena=1f1f8-1f1ed;flag_for_st._kitts_&_nevis=1f1f0-1f1f3",
    "flag_for_st._lucia=1f1f1-1f1e8;flag_for_st._martin=1f1f2-1f1eb",
    "flag_for_st._pierre_&_miquelon=1f1f5-1f1f2;flag_for_st._vincent_&_grenadines=1f1fb-1f1e8",
    "flag_for_sudan=1f1f8-1f1e9;flag_for_suriname=1f1f8-1f1f7",
    "flag_for_svalbard_&_jan_mayen=1f1f8-1f1ef;flag_for_swaziland=1f1f8-1f1ff",
    "flag_for_sweden=1f1f8-1f1ea;flag_for_switzerland=1f1e8-1f1ed;flag_for_syria=1f1f8-1f1fe",
    "flag_for_são_tomé_&_príncipe=1f1f8-1f1f9;flag_for_taiwan=1f1f9-1f1fc",
    "flag_for_tajikistan=1f1f9-1f1ef;flag_for_tanzania=1f1f9-1f1ff;flag_for_thailand=1f1f9-1f1ed",
    "flag_for_timor__leste=1f1f9-1f1f1;flag_for_togo=1f1f9-1f1ec;flag_for_tokelau=1f1f9-1f1f0",
    "flag_for_tonga=1f1f9-1f1f4;flag_for_trinidad_&_tobago=1f1f9-1f1f9",
    "flag_for_tristan_da_cunha=1f1f9-1f1e6;flag_for_tunisia=1f1f9-1f1f3",
    "flag_for_turkey=1f1f9-1f1f7;flag_for_turkmenistan=1f1f9-1f1f2",
    "flag_for_turks_&_caicos_islands=1f1f9-1f1e8;flag_for_tuvalu=1f1f9-1f1fb",
    "flag_for_u.s._outlying_islands=1f1fa-1f1f2;flag_for_u.s._virgin_islands=1f1fb-1f1ee",
    "flag_for_uganda=1f1fa-1f1ec;flag_for_ukraine=1f1fa-1f1e6",
    "flag_for_united_arab_emirates=1f1e6-1f1ea;flag_for_united_kingdom=1f1ec-1f1e7",
    "flag_for_united_states=1f1fa-1f1f8;flag_for_uruguay=1f1fa-1f1fe",
    "flag_for_uzbekistan=1f1fa-1f1ff;flag_for_vanuatu=1f1fb-1f1fa",
    "flag_for_vatican_city=1f1fb-1f1e6;flag_for_venezuela=1f1fb-1f1ea;flag_for_vietnam=1f1fb-1f1f3",
    "flag_for_wallis_&_futuna=1f1fc-1f1eb;flag_for_western_sahara=1f1ea-1f1ed",
    "flag_for_yemen=1f1fe-1f1ea;flag_for_zambia=1f1ff-1f1f2;flag_for_zimbabwe=1f1ff-1f1fc",
    "flag_for_åland_islands=1f1e6-1f1fd;golf=26f3;fleur__de__lis=269c;muscle=1f4aa;flushed=1f633",
    "frame_with_picture=1f5bc;fries=1f35f;frog=1f438;hatched_chick=1f425;frowning=1f626",
    "fuelpump=26fd;full_moon_with_face=1f31d;gem=1f48e;star2=1f31f;golfer=1f3cc;mortar_board=1f393",
    "grimacing=1f62c;smile_cat=1f638;grinning=1f600;grin=1f601;heartpulse=1f497;guardsman=1f482",
    "haircut=1f487;hamster=1f439;raising_hand=1f64b;headphones=1f3a7;hear_no_evil=1f649",
    "cupid=1f498;gift_heart=1f49d;heart=2764;exclamation=2757;heavy_exclamation_mark=2757",
    "heavy_heart_exclamation_mark_ornament=2763;o=2b55;helm_symbol=2388",
    "helmet_with_white_cross=26d1;high_heel=1f460;bullettrain_side=1f684;bullettrain_front=1f685",
    "high_brightness=1f506;zap=26a1;hocho=1f52a;knife=1f52a;bee=1f41d;traffic_light=1f6a5",
    "racehorse=1f40e;coffee=2615;hotsprings=2668;hourglass=231b;hourglass_flowing_sand=23f3",
    "house_buildings=1f3d8;100=1f4af;hushed=1f62f;ice_hockey_stick_and_puck=1f3d2;imp=1f47f",
    "information_desk_person=1f481;information_source=2139;capital_abcd=1f520;abc=1f524;abcd=1f521",
    "1234=1f522;symbols=1f523;izakaya_lantern=1f3ee;lantern=1f3ee;jack_o_lantern=1f383;dolls=1f38e",
    "japanese_goblin=1f47a;japanese_ogre=1f479;beginner=1f530;zero=30-fe0f-20e3;one=31-fe0f-20e3",
    "ten=1f51f;two=32-fe0f-20e3;three=33-fe0f-20e3;four=34-fe0f-20e3;five=35-fe0f-20e3",
    "six=36-fe0f-20e3;seven=37-fe0f-20e3;eight=38-fe0f-20e3;nine=39-fe0f-20e3;couplekiss=1f48f",
    "kissing_cat=1f63d;kissing=1f617;kissing_closed_eyes=1f61a;kissing_smiling_eyes=1f619",
    "beetle=1f41e;large_blue_circle=1f535;last_quarter_moon_with_face=1f31c;leaves=1f343;mag=1f50d",
    "left_right_arrow=2194;leftwards_arrow_with_hook=21a9;arrow_left=2b05;lock=1f512",
    "lock_with_ink_pen=1f50f;sob=1f62d;low_brightness=1f505;lower_left_ballpoint_pen=1f58a",
    "lower_left_crayon=1f58d;lower_left_fountain_pen=1f58b;lower_left_paintbrush=1f58c",
    "mahjong=1f004;couple=1f46b;man_in_business_suit_levitating=1f574;man_with_gua_pi_mao=1f472",
    "man_with_turban=1f473;mans_shoe=1f45e;shoe=1f45e;menorah_with_nine_branches=1f54e;mens=1f6b9",
    "minidisc=1f4bd;iphone=1f4f1;calling=1f4f2;money__mouth_face=1f911;moneybag=1f4b0",
    "rice_scene=1f391;mountain_bicyclist=1f6b5;mouse2=1f401;lips=1f444;moyai=1f5ff;notes=1f3b6",
    "nail_care=1f485;ab=1f18e;negative_squared_cross_mark=274e;a=1f170;b=1f171;o2=1f17e",
    "parking=1f17f;new_moon_with_face=1f31a;no_entry_sign=1f6ab;underage=1f51e",
    "non__potable_water=1f6b1;arrow_upper_right=2197;arrow_upper_left=2196;office=1f3e2",
    "older_man=1f474;older_woman=1f475;om_symbol=1f549;on=1f51b;book=1f4d6;unlock=1f513",
    "mailbox_with_no_mail=1f4ed;mailbox_with_mail=1f4ec;cd=1f4bf;tada=1f389;feet=1f43e",
    "walking=1f6b6;pencil2=270f;pensive=1f614;persevere=1f623;bow=1f647;raised_hands=1f64c",
    "person_with_ball=26f9;person_with_blond_hair=1f471;pray=1f64f;person_with_pouting_face=1f64e",
    "computer=1f4bb;pig2=1f416;hankey=1f4a9;poop=1f4a9;shit=1f4a9;bamboo=1f38d;gun=1f52b",
    "black_joker=1f0cf;rotating_light=1f6a8;cop=1f46e;stew=1f372;pouch=1f45d;pouting_cat=1f63e",
    "rage=1f621;put_litter_in_its_place=1f6ae;rabbit2=1f407;racing_motorcycle=1f3cd",
    "radioactive_sign=2622;fist=270a;hand=270b;raised_hand_with_fingers_splayed=1f590",
    "raised_hand_with_part_between_middle_and_ring_fingers=1f596;blue_car=1f699;apple=1f34e",
    "relieved=1f60c;reversed_hand_with_middle_finger_extended=1f595;mag_right=1f50e",
    "arrow_right_hook=21aa;sweet_potato=1f360;robot=1f916;rolled__up_newspaper=1f5de;rowboat=1f6a3",
    "runner=1f3c3;running=1f3c3;running_shirt_with_sash=1f3bd;boat=26f5;scales=2696",
    "school_satchel=1f392;scorpius=264f;see_no_evil=1f648;sheep=1f411;stars=1f320;cake=1f370",
    "six_pointed_star=1f52f;ski=1f3bf;sleeping_accommodation=1f6cc;sleeping=1f634;sleepy=1f62a",
    "sleuth_or_spy=1f575;heart_eyes_cat=1f63b;smiley_cat=1f63a;innocent=1f607;heart_eyes=1f60d",
    "smiling_imp=1f608;smiley=1f603;sweat_smile=1f605;smile=1f604;laughing=1f606;satisfied=1f606",
    "blush=1f60a;smirk=1f60f;smoking=1f6ac;snow_capped_mountain=1f3d4;soccer=26bd;icecream=1f366",
    "soon=1f51c;arrow_lower_right=2198;arrow_lower_left=2199;speak_no_evil=1f64a;speaker=1f508",
    "mute=1f507;sound=1f509;loud_sound=1f50a;speaking_head_in_silhouette=1f5e3",
    "spiral_calendar_pad=1f5d3;spiral_note_pad=1f5d2;shell=1f41a;sweat_drops=1f4a6;u5272=1f239",
    "u5408=1f234;u55b6=1f23a;u6307=1f22f;u6708=1f237;u6709=1f236;u6e80=1f235;u7121=1f21a",
    "u7533=1f238;u7981=1f232;u7a7a=1f233;cl=1f191;cool=1f192;free=1f193;id=1f194;koko=1f201",
    "sa=1f202;new=1f195;ng=1f196;ok=1f197;sos=1f198;up=1f199;vs=1f19a;steam_locomotive=1f682",
    "ramen=1f35c;partly_sunny=26c5;city_sunrise=1f307;surfer=1f3c4;swimmer=1f3ca;shirt=1f455",
    "tshirt=1f455;table_tennis_paddle_and_ball=1f3d3;tea=1f375;tv=1f4fa;three_button_mouse=1f5b1",
    "+1=1f44d;thumbsup=1f44d;__1=1f44e;-1=1f44e;thumbsdown=1f44e;thunder_cloud_and_rain=26c8",
    "tiger2=1f405;tophat=1f3a9;top=1f51d;tm=2122;train2=1f686;triangular_flag_on_post=1f6a9",
    "trident=1f531;twisted_rightwards_arrows=1f500;unamused=1f612;small_red_triangle=1f53a",
    "arrow_up_small=1f53c;arrow_up_down=2195;upside__down_face=1f643;arrow_up=2b06;v=270c",
    "vhs=1f4fc;wc=1f6be;ocean=1f30a;waving_black_flag=1f3f4;wave=1f44b;waving_white_flag=1f3f3",
    "moon=1f314;scream_cat=1f640;weary=1f629;weight_lifter=1f3cb;whale2=1f40b;wheelchair=267f",
    "point_down=1f447;grey_exclamation=2755;white_frowning_face=2639;white_check_mark=2705",
    "point_left=1f448;white_medium_small_square=25fd;star=2b50;grey_question=2754",
    "point_right=1f449;relaxed=263a;white_sun_behind_cloud=1f325",
    "white_sun_behind_cloud_with_rain=1f326;white_sun_with_small_cloud=1f324;point_up_2=1f446",
    "point_up=261d;wind_blowing_face=1f32c;wink=1f609;wolf=1f43a;dancers=1f46f;boot=1f462",
    "womans_clothes=1f45a;womans_hat=1f452;sandal=1f461;womens=1f6ba;worried=1f61f;gift=1f381",
    "zipper__mouth_face=1f910;regional_indicator_a=1f1e6;regional_indicator_b=1f1e7",
    "regional_indicator_c=1f1e8;regional_indicator_d=1f1e9;regional_indicator_e=1f1ea",
    "regional_indicator_f=1f1eb;regional_indicator_g=1f1ec;regional_indicator_h=1f1ed",
    "regional_indicator_i=1f1ee;regional_indicator_j=1f1ef;regional_indicator_k=1f1f0",
    "regional_indicator_l=1f1f1;regional_indicator_m=1f1f2;regional_indicator_n=1f1f3",
    "regional_indicator_o=1f1f4;regional_indicator_p=1f1f5;regional_indicator_q=1f1f6",
    "regional_indicator_r=1f1f7;regional_indicator_s=1f1f8;regional_indicator_t=1f1f9",
    "regional_indicator_u=1f1fa;regional_indicator_v=1f1fb;regional_indicator_w=1f1fc",
    "regional_indicator_x=1f1fd;regional_indicator_y=1f1fe;regional_indicator_z=1f1ff"]

end PortableSql.Report
